/-
Dropdowns: which components a bare identifier in a dropdown attribute exports.

A combo box asks for the component of its dropdown list.  If it gives a bare identifier, the request
is the address that this identifier has in the package of the combo box, and an address is its two
identifiers side by side.  So two components of different packages may have one address, if the
identifier of one package goes on where that of the other one ends, and then a request for one of
them exports both.

* `Package.AsksFor` and `contains_requests_iff`: what the files of a package ask for, and the
  requests of a parsing;
* `Package.AsksAcross`: a package asks for an identifier of its own that has the address of a
  component of another package;
* `dropdown_exports`: what the dropdown lists export;
* `dropdown_exports_across`: packages in which a component is exported across.
-/
import UiBinding.Proofs.Assets.Order
import UiBinding.Proofs.Assets.Texts
import UiBinding.Proofs.Resolution.Annotation

namespace UiBinding

/-! ### What is asked for -/

/-- A file of a package can be read, is a combo box, and has a dropdown attribute with a value; an
empty value counts as none. -/
def Package.AsksFor (p : Package) (d : Disk) (value : String) : Prop :=
  ∃ entry ∈ p.entries.items, ∃ root, d.readElement entry.path = .ok root ∧
    Component.kindOf root = .comboBox ∧
    ∃ e ∈ Component.childrenNamed "ComboBox" root, e.nonEmptyAttribute? "dropdown" = some value

/-- The addresses of the dropdown lists of a combo box. -/
lemma Component.mem_dropdownUrls_iff {packageId url : String} {root : Xml.Element} :
    url ∈ dropdownUrls packageId root ↔ ∃ value, (kindOf root = .comboBox ∧
      ∃ e ∈ childrenNamed "ComboBox" root, e.nonEmptyAttribute? "dropdown" = some value) ∧
        url = dropdownUrl packageId value := by
  rw [dropdownUrls]
  split
  · next hkind =>
      simp only [List.mem_filterMap, Option.map_eq_some_iff, hkind, true_and]
      constructor
      · rintro ⟨e, he, value, hvalue, rfl⟩
        exact ⟨value, ⟨e, he, hvalue⟩, rfl⟩
      · rintro ⟨value, ⟨e, he, hvalue⟩, rfl⟩
        exact ⟨e, he, value, hvalue, rfl⟩
  · next hkind => simp [hkind]

namespace Disk

variable {d : Disk} {folders : List Path} {a : Assets}

/-- What the file of an entry asks for. -/
lemma mem_requests_readComponent_iff {p : Package} {entry : Package.Entry} {url : String} :
    url ∈ (d.readComponent p entry).requests ↔
      ∃ root, d.readElement entry.path = .ok root ∧ url ∈ Component.dropdownUrls p.id root := by
  rw [readComponent]
  cases hread : d.readElement entry.path with
  | error reason => simp [ComponentFile.requests]
  | ok root => simp [ComponentFile.requests, Component.Reading.ofElement]

/-- What the files of a folder ask for. -/
lemma mem_requests_readPackage_iff {folder : Path} {url : String} :
    url ∈ (d.readPackage folder).requests ↔ ∃ p ∈ (d.readPackage folder).packages,
      ∃ value, p.AsksFor d value ∧ url = Component.dropdownUrl p.id value := by
  cases hread : d.readPackage folder with
  | skipped problem => simp [PackageFolder.requests, PackageFolder.packages]
  | refused problem => simp [PackageFolder.requests, PackageFolder.packages]
  | accepted p files =>
      obtain ⟨-, -, rfl⟩ := readPackage_eq_accepted_iff.mp hread
      simp only [PackageFolder.requests, PackageFolder.packages, List.mem_singleton,
        exists_eq_left, List.flatMap_map, List.mem_flatMap, mem_requests_readComponent_iff,
        Component.mem_dropdownUrls_iff]
      constructor
      · rintro ⟨entry, hentry, root, hroot, value, ⟨hkind, hasks⟩, rfl⟩
        exact ⟨value, ⟨entry, hentry, root, hroot, hkind, hasks⟩, rfl⟩
      · rintro ⟨value, ⟨entry, hentry, root, hroot, hkind, hasks⟩, rfl⟩
        exact ⟨entry, hentry, root, hroot, value, ⟨hkind, hasks⟩, rfl⟩

/-- **The requests of a parsing** are what the files of the packages ask for. -/
lemma contains_requests_iff (hparse : (d.parse folders).outcome = .ok a) {url : String} :
    a.requests.contains url = true ↔ ∃ p ∈ a.registry.packages.items, ∃ value,
      p.AsksFor d value ∧ url = Component.dropdownUrl p.id value := by
  have hgathers := gathers_of_parseInto hparse
  have hempty : Assets.empty.requests.contains url = false := rfl
  have hpackages : a.registry.packages.items =
      (folders.map d.readPackage).flatMap PackageFolder.packages := hgathers.packages
  rw [hgathers.requests, hempty, hpackages]
  simp only [List.flatMap_map, List.mem_flatMap, mem_requests_readPackage_iff, Bool.false_eq_true,
    or_false]
  constructor
  · rintro ⟨folder, hfolder, p, hp, hasks⟩
    exact ⟨p, ⟨folder, hfolder, hp⟩, hasks⟩
  · rintro ⟨p, ⟨folder, hfolder, hp⟩, hasks⟩
    exact ⟨folder, hfolder, p, hp, hasks⟩

end Disk

/-! ### Addresses -/

/-- Two keys have one address exactly if their identifiers, side by side, are one text. -/
lemma Component.Key.url_eq_url_iff {k l : Key} :
    k.url = l.url ↔ k.packageId ++ k.componentId = l.packageId ++ l.componentId := by
  rw [url, url, String.append_assoc, String.append_assoc, String.append_right_inj]

/-- A package asks for an identifier that, behind its own, is the text of a key of another
package. -/
def Package.AsksAcross (p : Package) (d : Disk) (key : Component.Key) : Prop :=
  p.id ≠ key.packageId ∧
    ∃ value, p.AsksFor d value ∧ p.id ++ value = key.packageId ++ key.componentId

/-- A package asks across only where one of the package identifiers begins with the other. -/
lemma Package.AsksAcross.comparable {p : Package} {d : Disk} {key : Component.Key}
    (h : p.AsksAcross d key) :
    p.id.toList <+: key.packageId.toList ∨ key.packageId.toList <+: p.id.toList := by
  obtain ⟨-, value, -, htext⟩ := h
  have hlist : p.id.toList ++ value.toList = key.packageId.toList ++ key.componentId.toList := by
    rw [← String.toList_append, htext, String.toList_append]
  have hown : p.id.toList <+: key.packageId.toList ++ key.componentId.toList :=
    hlist ▸ List.prefix_append _ _
  exact List.prefix_or_prefix_of_prefix hown (List.prefix_append _ _)

/-- A component whose address is asked for is asked for by its own package or across. -/
lemma Package.asksFor_url_iff {p : Package} {d : Disk} (key : Component.Key) :
    (∃ value, p.AsksFor d value ∧ key.url = (Component.Key.mk p.id value).url) ↔
      (p.id = key.packageId ∧ p.AsksFor d key.componentId) ∨ p.AsksAcross d key := by
  simp only [Component.Key.url_eq_url_iff]
  constructor
  · rintro ⟨value, hasks, htext⟩
    by_cases hown : p.id = key.packageId
    · rw [hown, String.append_right_inj] at htext
      exact Or.inl ⟨hown, htext ▸ hasks⟩
    · exact Or.inr ⟨hown, value, hasks, htext.symm⟩
  · rintro (⟨hown, hasks⟩ | ⟨-, value, hasks, htext⟩)
    · exact ⟨key.componentId, hasks, by rw [hown]⟩
    · exact ⟨value, hasks, htext.symm⟩

/-! ### What is exported -/

/-- A component that was read is not marked reachable. -/
lemma Assets.ReadFrom.reachable_eq_false {d : Disk} {folders : List Path} {a : Assets}
    (h : a.ReadFrom d folders) {c : Component} (hc : c ∈ a.registry.components.items) :
    c.reachable = false := by
  obtain ⟨p, -, entry, -, root, -, rfl⟩ := h.exists_reading hc
  rfl

namespace Disk

variable {d : Disk} {folders : List Path} {a : Assets} {config : Config}

/-- A component that is neither declared exported nor reached by the walk is exported exactly if its
address was requested. -/
lemma exported_iff_requested (hparse : (d.parse folders).outcome = .ok a) {c : Component}
    (hc : c ∈ (a.resolve config).registry.components.items) (hdeclared : c.declaredExported = false)
    (hwalk : c.key ∉ (a.resolve config).walk.keys) :
    c.exported = true ↔ a.requests.contains c.key.url = true := by
  rw [a.walk_resolve] at hwalk
  rw [a.registry_resolve_eq] at hc
  obtain ⟨read, hread, rfl⟩ := List.mem_map.mp hc
  have hannotates := Component.annotates_of_authored_eq (a.authored_settle config read)
  have hreachable := (readFrom_of_parse hparse).reachable_eq_false hread
  rw [hannotates.declaredExported] at hdeclared
  rw [hannotates.key] at hwalk ⊢
  simp [(a.marks_settle config read).1, hwalk, hdeclared, hreachable]

/-- **What dropdown lists export**, if all of them give bare identifiers.  A component that is
neither declared exported nor reached by the walk is exported exactly if a combo box of its own
package asks for it, or one of another package asks across.  If no other package has an identifier
that begins with that of its package, or the other way round, then its own package is the only one
that can export it. -/
theorem dropdown_exports (hparse : (d.parse folders).outcome = .ok a)
    (hbare : ∀ p ∈ a.registry.packages.items, ∀ value, p.AsksFor d value →
      ¬ "ui://".toList <+: value.toList) (config : Config) :
    let resolution := a.resolve config
    ∀ c ∈ resolution.registry.components.items, c.declaredExported = false →
      c.key ∉ resolution.walk.keys →
      (c.exported = true ↔
        (∃ p ∈ a.registry.packages.items, p.id = c.packageId ∧ p.AsksFor d c.id) ∨
          ∃ p ∈ a.registry.packages.items, p.AsksAcross d c.key) ∧
      ((∀ p ∈ a.registry.packages.items, p.id ≠ c.packageId →
          ¬ p.id.toList <+: c.packageId.toList ∧ ¬ c.packageId.toList <+: p.id.toList) →
        (c.exported = true ↔
          ∃ p ∈ a.registry.packages.items, p.id = c.packageId ∧ p.AsksFor d c.id)) := by
  intro resolution c hc hdeclared hwalk
  -- a bare identifier stands for its address in the package of the combo box
  have hurl : ∀ p ∈ a.registry.packages.items, ∀ value, p.AsksFor d value →
      Component.dropdownUrl p.id value = (Component.Key.mk p.id value).url := by
    intro p hp value hasks
    exact if_neg fun hprefix => hbare p hp value hasks (List.isPrefixOf_iff_prefix.mp hprefix)
  have hexported : c.exported = true ↔
      (∃ p ∈ a.registry.packages.items, p.id = c.packageId ∧ p.AsksFor d c.id) ∨
        ∃ p ∈ a.registry.packages.items, p.AsksAcross d c.key := by
    calc c.exported = true
        ↔ ∃ p ∈ a.registry.packages.items, ∃ value, p.AsksFor d value ∧
            c.key.url = Component.dropdownUrl p.id value := by
          rw [exported_iff_requested hparse hc hdeclared hwalk, contains_requests_iff hparse]
      _ ↔ ∃ p ∈ a.registry.packages.items,
            (p.id = c.packageId ∧ p.AsksFor d c.id) ∨ p.AsksAcross d c.key := by
          refine exists_congr fun p => and_congr_right fun hp => ?_
          refine Iff.trans ?_ (Package.asksFor_url_iff c.key)
          exact exists_congr fun value => and_congr_right fun hasks => by rw [hurl p hp value hasks]
      _ ↔ _ := by simp only [and_or_left, exists_or]
  refine ⟨hexported, fun hapart => hexported.trans (or_iff_left ?_)⟩
  rintro ⟨p, hp, hacross⟩
  obtain ⟨hnot, hnot'⟩ := hapart p hp hacross.1
  exact hacross.comparable.elim hnot hnot'

/-- The files of two packages.  A combo box of the first one has a bare identifier in its dropdown
attribute that has the address of the component of the second one. -/
def adjacentTexts : List (String × String) :=
  [("A/package.xml", "<package id='p'><resources><component id='k' name='M'/></resources>" ++
      "<publish/></package>"),
    ("A/M", "<component extention='ComboBox'><ComboBox dropdown='1a'/></component>"),
    ("B/package.xml", "<package id='p1'><resources><component id='a' name='M'/></resources>" ++
      "<publish/></package>"),
    ("B/M", "<component/>")]

/-- A disk with these files. -/
def adjacent : Disk := ofTexts ["A", "B"] adjacentTexts

lemma readable_adjacent : Readable ["A", "B"] adjacentTexts := by decide +kernel

/-- The values of the dropdown attributes that are read, for the paths of the two files. -/
lemma dropdowns_adjacent {path : Path} {values : List String}
    (hpath : (path, values) ∈ [(⟨"A/M"⟩, ["1a"]), (⟨"B/M"⟩, [])]) {root : Xml.Element}
    (hroot : adjacent.readElement path = .ok root) :
    (Component.childrenNamed "ComboBox" root).filterMap (·.nonEmptyAttribute? "dropdown") =
      values := by
  have htrees : ∀ row ∈ [((⟨"A/M"⟩ : Path), ["1a"]), (⟨"B/M"⟩, [])],
      (treeIn adjacentTexts row.1).map (fun root =>
        (Component.childrenNamed "ComboBox" root).filterMap (·.nonEmptyAttribute? "dropdown")) =
          some row.2 := by decide +kernel
  obtain ⟨tree, htree, hvalues⟩ := Option.map_eq_some_iff.mp (htrees _ hpath)
  have hread := (readable_adjacent.readElement_eq htree).2
  cases hread.symm.trans hroot
  exact hvalues

/-- The only value asked for is the one in the first package. -/
lemma asksFor_adjacent {a : Assets} (hpackages : a.registry.packages.items.map (fun p =>
      (p.id, p.entries.items.map Package.Entry.path)) = [("p", [⟨"A/M"⟩]), ("p1", [⟨"B/M"⟩])])
    {p : Package} (hp : p ∈ a.registry.packages.items) {value : String}
    (hasks : p.AsksFor adjacent value) : p.id = "p" ∧ value = "1a" := by
  obtain ⟨entry, hentry, root, hroot, -, e, he, hvalue⟩ := hasks
  have hmem : value ∈ (Component.childrenNamed "ComboBox" root).filterMap
      (·.nonEmptyAttribute? "dropdown") := List.mem_filterMap.mpr ⟨e, he, hvalue⟩
  have hpath : entry.path ∈ p.entries.items.map Package.Entry.path := List.mem_map_of_mem hentry
  have hrow := hpackages ▸ List.mem_map_of_mem
    (f := fun p : Package => (p.id, p.entries.items.map Package.Entry.path)) hp
  simp only [List.mem_cons, List.not_mem_nil, or_false, Prod.mk.injEq] at hrow
  rcases hrow with ⟨hid, hpaths⟩ | ⟨hid, hpaths⟩
  · rw [hpaths, List.mem_singleton] at hpath
    rw [hpath] at hroot
    rw [dropdowns_adjacent (.head _) hroot, List.mem_singleton] at hmem
    exact ⟨hid, hmem⟩
  · rw [hpaths, List.mem_singleton] at hpath
    rw [hpath] at hroot
    rw [dropdowns_adjacent (.tail _ (.head _)) hroot] at hmem
    cases hmem

/-- What is read from the disk and resolved: the component of the second package is exported. -/
lemma parse_adjacent :
    ∃ a, (adjacent.parse [⟨"A"⟩, ⟨"B"⟩]).outcome = .ok a ∧
      (∀ p ∈ a.registry.packages.items, ∀ value, p.AsksFor adjacent value →
        p.id = "p" ∧ value = "1a") ∧
      (∀ p ∈ a.registry.packages.items, ∀ value, p.AsksFor adjacent value →
        ¬ "ui://".toList <+: value.toList) ∧
      ∃ c ∈ (a.resolve {}).registry.components.items, c.key = ⟨"p1", "a"⟩ ∧
        c.declaredExported = false ∧ c.key ∉ (a.resolve {}).walk.keys ∧ c.exported = true := by
  have hfacts : (Assets.empty.addAll ([⟨"A"⟩, ⟨"B"⟩].map
      (adjacent.readWith (treeIn adjacentTexts)))).toOption.map (fun a =>
        (a.registry.packages.items.map (fun p => (p.id, p.entries.items.map Package.Entry.path)),
        decide (∃ c ∈ (a.resolve {}).registry.components.items, c.key = ⟨"p1", "a"⟩ ∧
          c.declaredExported = false ∧ c.key ∉ (a.resolve {}).walk.keys ∧ c.exported = true))) =
      some ([("p", [⟨"A/M"⟩]), ("p1", [⟨"B/M"⟩])], true) := by
    decide +kernel
  obtain ⟨a, ha, hfacts⟩ := readable_adjacent.exists_parse hfacts
  obtain ⟨hpackages, hcomponent⟩ := Prod.mk.inj hfacts
  refine ⟨a, ha, fun p hp value hasks => asksFor_adjacent hpackages hp hasks,
    fun p hp value hasks => ?_, of_decide_eq_true hcomponent⟩
  rw [(asksFor_adjacent hpackages hp hasks).2]
  decide

/-- No combo box of its own package asks for the component of the second package, and yet it is
exported. -/
theorem dropdown_exports_across :
    ∃ a, (adjacent.parse [⟨"A"⟩, ⟨"B"⟩]).outcome = .ok a ∧
      (∀ p ∈ a.registry.packages.items, ∀ value, p.AsksFor adjacent value →
        ¬ "ui://".toList <+: value.toList) ∧
      ∃ c ∈ (a.resolve {}).registry.components.items, c.declaredExported = false ∧
        c.key ∉ (a.resolve {}).walk.keys ∧ c.exported = true ∧
        ¬ ∃ p ∈ a.registry.packages.items, p.id = c.packageId ∧ p.AsksFor adjacent c.id := by
  obtain ⟨a, ha, hasked, hbare, c, hc, hkey, hdeclared, hwalk, hexported⟩ := parse_adjacent
  refine ⟨a, ha, hbare, c, hc, hdeclared, hwalk, hexported, ?_⟩
  rintro ⟨p, hp, hid, hasks⟩
  have hown : c.packageId = "p" := hid.symm.trans (hasked p hp _ hasks).1
  have hother : c.packageId = "p1" := congrArg Component.Key.packageId hkey
  exact absurd (hown.symm.trans hother) (by decide)

/-- The component of the second package is exported because the first package asks across. -/
theorem dropdown_exports_adjacent :
    ∃ a, (adjacent.parse [⟨"A"⟩, ⟨"B"⟩]).outcome = .ok a ∧
      (∀ p ∈ a.registry.packages.items, ∀ value, p.AsksFor adjacent value →
        ¬ "ui://".toList <+: value.toList) ∧
      ∃ p ∈ a.registry.packages.items, p.id = "p" ∧ p.AsksAcross adjacent ⟨"p1", "a"⟩ := by
  obtain ⟨a, ha, hasked, hbare, c, hc, hkey, hdeclared, hwalk, hexported⟩ := parse_adjacent
  refine ⟨a, ha, hbare, ?_⟩
  obtain ⟨hexports, -⟩ := dropdown_exports ha hbare {} c hc hdeclared hwalk
  rcases hexports.mp hexported with ⟨p, hp, hid, hasks⟩ | ⟨p, hp, hacross⟩
  · have hvalue : c.id = "1a" := (hasked p hp _ hasks).2
    have hcomponent : c.id = "a" := congrArg Component.Key.componentId hkey
    exact absurd (hvalue.symm.trans hcomponent) (by decide)
  · obtain ⟨-, value, hasks, -⟩ := id hacross
    exact ⟨p, hp, (hasked p hp value hasks).1, hkey ▸ hacross⟩

end Disk

end UiBinding
