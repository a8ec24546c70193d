/-
Targets: what a reference leads to, in terms of manifests and files.

A reference names a package and an identifier in it.  It leads to a component exactly if the package
has an entry with this identifier whose file can be read.  Both may be without an identifier: a
reference without a target asks for the empty one, and an entry that gives none is registered under
it.  So a reference without a target dangles exactly as long as its package has no such entry.

* `Package.Provides`: an entry with an identifier, whose file can be read;
* `ReadFrom.isSome_target?_iff`: references lead to what packages provide;
* `typing?_resolve_of_target?`: the type of a reference at the end of a resolution;
* `targetless_resolve`: references without a target;
* `targetless_resolved`: packages in which two of them do not dangle.
-/
import UiBinding.Proofs.Assets.Texts
import UiBinding.Proofs.Resolution.Dangling

namespace UiBinding

/-! ### What a package provides -/

/-- A package has an entry with an identifier, and the file of the entry can be read. -/
def Package.Provides (p : Package) (d : Disk) (id : String) : Prop :=
  ∃ entry ∈ p.entries.items, entry.id = id ∧ ∃ root, d.readElement entry.path = .ok root

/-- A component is found in a package under the identifiers that the package provides. -/
lemma Registry.Holds.isSome_component?_iff {d : Disk} {r : Registry} {p : Package}
    (h : r.Holds p (p.entries.items.map (d.readComponent p))) (id : String) :
    (r.component? ⟨p.id, id⟩).isSome = true ↔ p.Provides d id := by
  constructor
  · intro hsome
    obtain ⟨c, hfound⟩ := Option.isSome_iff_exists.mp hsome
    have hkey := (component?_eq_some_iff.mp hfound).2
    obtain ⟨entry, hentry, root, hroot, rfl⟩ := h.exists_reading hfound
    exact ⟨entry, hentry, congrArg Component.Key.componentId hkey, root, hroot⟩
  · rintro ⟨entry, hentry, rfl, root, hroot⟩
    have hcomponent : (d.readComponent p entry).component? =
        some (Component.Reading.ofElement p entry root).component :=
      Disk.component?_readComponent_eq_some_iff.mpr ⟨root, hroot, rfl⟩
    have hmem := List.mem_filterMap.mpr ⟨_, List.mem_map_of_mem hentry, hcomponent⟩
    rw [h.component, List.find?_isSome]
    exact ⟨_, List.mem_reverse.mpr hmem, decide_eq_true rfl⟩

namespace Assets

variable {d : Disk} {folders : List Path} {a : Assets}

/-- **References lead to what packages provide.** -/
lemma ReadFrom.isSome_target?_iff (h : a.ReadFrom d folders) (key : Component.Key) :
    (a.registry.target? key).isSome = true ↔
      ∃ p ∈ a.registry.packages.items, p.id = key.packageId ∧ p.Provides d key.componentId := by
  rw [Registry.target?]
  cases hpackage : a.registry.package? key.packageId with
  | none =>
      have hnew := Catalog.find?_eq_none_iff.mp hpackage
      refine iff_of_false Bool.false_ne_true ?_
      rintro ⟨p, hp, hid, -⟩
      exact hnew (hid ▸ List.mem_map_of_mem hp)
  | some q =>
      obtain ⟨hmem, hid⟩ := Catalog.find?_eq_some_iff.mp hpackage
      obtain ⟨-, files, hread, hholds⟩ := h.package q hmem
      obtain ⟨-, -, rfl⟩ := Disk.readPackage_eq_accepted_iff.mp hread
      have hkey : key = ⟨q.id, key.componentId⟩ := Component.Key.ext hid.symm rfl
      rw [Option.bind_some, hkey, hholds.isSome_component?_iff]
      constructor
      · exact fun hq => ⟨q, hmem, rfl, hq⟩
      -- no other package has the identifier
      · rintro ⟨p, hp, hpid, hprovided⟩
        have hfound := Catalog.find?_eq_some_iff.mpr ⟨hp, hpid.trans hid⟩
        obtain rfl : q = p := Option.some.inj (hpackage.symm.trans hfound)
        exact hprovided

/-- A resolution does not change what references lead to. -/
lemma ReadFrom.isSome_target?_resolve_iff (h : a.ReadFrom d folders) (config : Config)
    (key : Component.Key) : ((a.resolve config).registry.target? key).isSome = true ↔
      ∃ p ∈ a.registry.packages.items, p.id = key.packageId ∧ p.Provides d key.componentId := by
  rw [registry_resolve_eq, Registry.target?_mapComponents, Option.isSome_map,
    h.isSome_target?_iff]

/-- At the end of a resolution a reference that becomes a field has the type of what it leads to. -/
lemma typing?_resolve_of_target? {config : Config} {c : Component} {m : Member}
    {target : Component.Key} (hc : c ∈ (a.resolve config).registry.components.items)
    (hm : m ∈ c.members) (hexposed : m.exposed = true)
    (htarget : m.target? c.packageId = some target) :
    m.typing? = some ((a.resolve config).registry.referenceTyping target) := by
  have hbase : m.kind.baseType? = none := by
    cases hbase : m.kind.baseType? with
    | none => rfl
    | some baseType =>
        rw [Registry.target?_of_baseType? hbase] at htarget
        cases htarget
  rw [Registry.typing?_of_typed (a.resolveTypes_resolve config) hc hm, if_pos hexposed,
    Registry.typing?, hbase, htarget]
  rfl

end Assets

/-! ### References without a target -/

/-- A reference without a target asks for the empty identifier. -/
lemma Member.target?_of_nonEmptyAttribute?_eq_none {m : Member} (hkind : m.kind = .component)
    (hsrc : m.node.nonEmptyAttribute? "src" = none) (owner : String) :
    m.target? owner = some ⟨(m.node.nonEmptyAttribute? "pkg").getD owner, ""⟩ := by
  have hempty : m.node.attributeOrEmpty "src" = "" := by
    rw [Package.nonEmptyAttribute?_eq_none_iff] at hsrc
    rw [Xml.Element.attributeOrEmpty]
    cases hvalue : m.node.attribute? "src" with
    | none => rfl
    | some value => exact hsrc value hvalue
  rw [target?, if_pos hkind, hempty]

namespace Disk

/-- **References without a target.**  After a resolution of packages that were read, a reference
without a target that becomes a field dangles exactly if its package provides nothing under the
empty identifier, and otherwise it is typed by what is registered there.  Every member that dangles
is reported once. -/
theorem targetless_resolve {d : Disk} {folders : List Path} {a : Assets}
    (hparse : (d.parse folders).outcome = .ok a) (config : Config) :
    let resolution := a.resolve config
    let registry := resolution.registry
    (∀ c ∈ registry.components.items, ∀ m ∈ c.members, m.exposed = true → m.kind = .component →
      m.node.nonEmptyAttribute? "src" = none →
      let owner := (m.node.nonEmptyAttribute? "pkg").getD c.packageId
      (m.typing? = some (.dangling ⟨owner, ""⟩) ↔
        ∀ p ∈ a.registry.packages.items, p.id = owner → ¬ p.Provides d "") ∧
      (m.typing? = some (.dangling ⟨owner, ""⟩) ∨
        ∃ found, registry.component? ⟨owner, ""⟩ = some found ∧ m.typing? =
          some (.component ⟨owner, ""⟩ found.kind (found.className?.getD found.kind.baseType)))) ∧
    List.Forall₂ (fun d row => d.Reports registry row.1 row.2) resolution.dangling
      registry.danglingMembers := by
  intro resolution registry
  constructor
  · intro c hc m hm hexposed hkind hsrc owner
    have htarget := Member.target?_of_nonEmptyAttribute?_eq_none hkind hsrc c.packageId
    have hprovided := (readFrom_of_parse hparse).isSome_target?_resolve_iff config ⟨owner, ""⟩
    have hnone : (∀ p ∈ a.registry.packages.items, p.id = owner → ¬ p.Provides d "") ↔
        ¬ (registry.target? ⟨owner, ""⟩).isSome = true := by
      rw [hprovided]
      push Not
      rfl
    rw [Assets.typing?_resolve_of_target? hc hm hexposed htarget, hnone, Registry.referenceTyping]
    cases hfound : registry.target? ⟨owner, ""⟩ with
    | none => exact ⟨by simp [owner], Or.inl rfl⟩
    | some found =>
        have hregistered := (Registry.target?_eq_some_iff.mp hfound).2
        exact ⟨by simp, Or.inr ⟨found, hregistered, rfl⟩⟩
  · show List.Forall₂ _ (a.resolve config).dangling _
    rw [Assets.dangling_resolve]
    exact registry.forall₂_danglingReferences

/-- The files of two packages.  An entry of the first one has no identifier, and members of both
refer to a component of the first one, or of the second one, without saying to which. -/
def unnamedTexts : List (String × String) :=
  [("A/package.xml", "<package id='p'><resources><component id='a' name='M'/>" ++
      "<component name='N'/></resources><publish/></package>"),
    ("A/M", "<component><displayList><component name='open'/></displayList></component>"),
    ("A/N", "<component/>"),
    ("B/package.xml", "<package id='q'><resources><component id='b' name='M'/></resources>" ++
      "<publish/></package>"),
    ("B/M", "<component><displayList><component name='lost'/>" ++
      "<component name='led' pkg='p' src=''/></displayList></component>")]

/-- A disk with these files. -/
def unnamed : Disk := ofTexts ["A", "B"] unnamedTexts

/-- The references without a target: the package that each of them leads to, its name and the type
that it gets. -/
def unnamedReferences : List (String × String × Member.Typing) :=
  [("p", "open", .component ⟨"p", ""⟩ .component "GComponent"),
    ("p", "led", .component ⟨"p", ""⟩ .component "GComponent"),
    ("q", "lost", .dangling ⟨"q", ""⟩)]

/-- What is read from the disk and resolved. -/
lemma parse_unnamed :
    ∃ a, (unnamed.parse [⟨"A"⟩, ⟨"B"⟩]).outcome = .ok a ∧
      (∀ row ∈ unnamedReferences, ∃ c ∈ (a.resolve {}).registry.components.items,
        ∃ m ∈ c.members, m.exposed = true ∧ m.kind = .component ∧
          m.node.nonEmptyAttribute? "src" = none ∧
          ((m.node.nonEmptyAttribute? "pkg").getD c.packageId, m.name, m.typing?) =
            (row.1, row.2.1, some row.2.2)) ∧
      (a.resolve {}).dangling = [⟨⟨"q", "b"⟩, "B/M", "lost", ⟨"q", ""⟩⟩] := by
  have hreadable : Readable ["A", "B"] unnamedTexts := by decide +kernel
  have hfacts : (Assets.empty.addAll ([⟨"A"⟩, ⟨"B"⟩].map
      (unnamed.readWith (treeIn unnamedTexts)))).toOption.map (fun a =>
        (decide (∀ row ∈ unnamedReferences, ∃ c ∈ (a.resolve {}).registry.components.items,
          ∃ m ∈ c.members, m.exposed = true ∧ m.kind = .component ∧
            m.node.nonEmptyAttribute? "src" = none ∧
            ((m.node.nonEmptyAttribute? "pkg").getD c.packageId, m.name, m.typing?) =
              (row.1, row.2.1, some row.2.2)),
        (a.resolve {}).dangling)) =
      some (true, [⟨⟨"q", "b"⟩, "B/M", "lost", ⟨"q", ""⟩⟩]) := by
    decide +kernel
  obtain ⟨a, ha, hfacts⟩ := hreadable.exists_parse hfacts
  obtain ⟨hrows, hdangling⟩ := Prod.mk.inj hfacts
  exact ⟨a, ha, of_decide_eq_true hrows, hdangling⟩

/-- One of the references has no target and yet a type, and is not reported. -/
theorem targetless_resolved :
    ∃ a, (unnamed.parse [⟨"A"⟩, ⟨"B"⟩]).outcome = .ok a ∧
      ∃ c ∈ (a.resolve {}).registry.components.items, ∃ m ∈ c.members, m.exposed = true ∧
        m.kind = .component ∧ m.node.nonEmptyAttribute? "src" = none ∧
        (∀ missing, m.typing? ≠ some (.dangling missing)) ∧
        ∀ d ∈ (a.resolve {}).dangling, d.member ≠ m.name := by
  obtain ⟨a, ha, hrows, hdangling⟩ := parse_unnamed
  obtain ⟨c, hc, m, hm, hexposed, hkind, hsrc, hrow⟩ := hrows _ (.tail _ (.head _))
  simp only [Prod.mk.injEq] at hrow
  obtain ⟨-, hname, htyping⟩ := hrow
  refine ⟨a, ha, c, hc, m, hm, hexposed, hkind, hsrc, fun missing => ?_, fun d hd => ?_⟩
  · rw [htyping]
    simp
  · rw [hdangling, List.mem_singleton] at hd
    rw [hd, hname]
    decide

/-- The first package provides a component under the empty identifier and the second one does not,
so of two references without a target one is typed and the other one dangles. -/
theorem targetless_resolve_unnamed :
    ∃ a, (unnamed.parse [⟨"A"⟩, ⟨"B"⟩]).outcome = .ok a ∧
      (∃ p ∈ a.registry.packages.items, p.id = "p" ∧ p.Provides unnamed "") ∧
      (∀ p ∈ a.registry.packages.items, p.id = "q" → ¬ p.Provides unnamed "") ∧
      (a.resolve {}).dangling = [⟨⟨"q", "b"⟩, "B/M", "lost", ⟨"q", ""⟩⟩] ∧
      List.Forall₂ (fun d row => d.Reports (a.resolve {}).registry row.1 row.2)
        (a.resolve {}).dangling (a.resolve {}).registry.danglingMembers := by
  obtain ⟨a, ha, hrows, hdangling⟩ := parse_unnamed
  obtain ⟨htargetless, hreports⟩ := targetless_resolve ha {}
  refine ⟨a, ha, ?_, ?_, hdangling, hreports⟩
  · obtain ⟨c, hc, m, hm, hexposed, hkind, hsrc, hrow⟩ := hrows _ (.head _)
    simp only [Prod.mk.injEq] at hrow
    obtain ⟨howner, -, htyping⟩ := hrow
    obtain ⟨hprovides, -⟩ := htargetless c hc m hm hexposed hkind hsrc
    rw [howner, htyping] at hprovides
    by_contra hnone
    push Not at hnone
    have hdangles := hprovides.mpr hnone
    cases hdangles
  · obtain ⟨c, hc, m, hm, hexposed, hkind, hsrc, hrow⟩ := hrows _ (.tail _ (.tail _ (.head _)))
    simp only [Prod.mk.injEq] at hrow
    obtain ⟨howner, -, htyping⟩ := hrow
    obtain ⟨hprovides, -⟩ := htargetless c hc m hm hexposed hkind hsrc
    rw [howner] at hprovides
    exact hprovides.mp htyping

end Disk

end UiBinding
