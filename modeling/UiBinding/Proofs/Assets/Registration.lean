/-
Registration: what the registry holds once package folders have been read into it.

A package is registered with the components that its files turned out to be, entered one after the
other, and with the problems that were met.  Packages have different identifiers, so what is
registered for one stays as it is while others are added.

* `readPackage_eq_accepted_iff`: what an accepted package folder holds;
* `Registry.Holds` and `Assets.ReadFrom` are what is known of a registry once folders were read, and
  `ReadFrom.exists_reading` says where a component comes from;
* `ReadFrom.add` is one folder, `ReadFrom.of_parseInto` a list of them, and `readFrom_of_parse`
  says it of a whole parsing.
-/
import UiBinding.Assets.Parse
import UiBinding.Proofs.Catalog

namespace UiBinding

namespace Registry

/-- Noting problems changes the warnings only. -/
lemma warnAll_eq (r : Registry) (problems : List Diagnostic) :
    r.warnAll problems = { r with warnings := r.warnings ++ problems } := by
  induction problems generalizing r with
  | nil => simp [warnAll]
  | cons problem rest ih =>
      rw [warnAll, List.foldl_cons, ← warnAll, ih]
      simp [warn]

/-- Registering components changes the components only. -/
lemma insertComponents_eq (r : Registry) (components : List Component) :
    r.insertComponents components =
      { r with components := components.foldl Catalog.insert r.components } := by
  induction components generalizing r with
  | nil => rfl
  | cons c rest ih =>
      rw [insertComponents, List.foldl_cons, ← insertComponents, ih]
      rfl

/-- A package is registered exactly when its identifier is not taken, and then after all others. -/
lemma insertPackage_eq_ok_iff {r s : Registry} {p : Package} :
    r.insertPackage p = .ok s ↔
      p.id ∉ r.packages.keys ∧ s = { r with packages := r.packages.insert p } := by
  rw [insertPackage]
  split
  · next other hfound =>
      have hmem : p.id ∈ r.packages.keys := by
        rw [← Catalog.contains_iff]
        exact Option.isSome_iff_exists.mpr ⟨other, hfound⟩
      simp [hmem]
  · next hfound =>
      have hmem : p.id ∉ r.packages.keys := Catalog.find?_eq_none_iff.mp hfound
      simp [hmem, eq_comm]

end Registry

/-! ### Package folders -/

/-- What is left of an outcome as an option is what succeeded. -/
lemma eq_ok_of_toOption_eq_some {ε α : Type} {outcome : Except ε α} {a : α}
    (h : outcome.toOption = some a) : outcome = .ok a := by
  cases outcome with
  | error => cases h
  | ok => exact congrArg Except.ok (Option.some.inj h)

/-- What a manifest that is accepted declares. -/
lemma Package.ofManifestFile_eq_ok {root : Xml.Element} {folder : Path} {name file : String}
    {p : Package} (h : ofManifestFile root folder name file = .ok p) :
    p.path = folder ∧ ∃ resources, resourceSection? root = some resources ∧
      p.entries = .ofList
        ((Component.childrenNamed "component" resources).map (Entry.ofElement folder)) := by
  rw [ofManifestFile, ofManifest] at h
  cases hresources : resourceSection? root with
  | none =>
      rw [hresources] at h
      cases h
  | some resources =>
      rw [hresources] at h
      cases hid : root.nonEmptyAttribute? "id" with
      | none =>
          rw [hid] at h
          cases h
      | some id =>
          rw [hid] at h
          cases h
          exact ⟨rfl, resources, rfl, rfl⟩

namespace Disk

variable {d : Disk}

/-- A file whose bytes are the encoding of a text is read as that text. -/
lemma readText_of_locate {path : Path} {place : Place} {text : String}
    (hplace : d.locate path = .ok (.present place))
    (hcontent : d.content? place = some (.file text.toUTF8)) : d.readText path = .ok text := by
  have hbytes : String.fromUTF8? text.toUTF8 = some text := dif_pos text.isValidUTF8
  rw [readText, hplace]
  simp only [hcontent, hbytes]

/-- A file that is a well-formed document is read as its element tree. -/
lemma readElement_of_readText {path : Path} {text : String} {root : Xml.Element}
    (htext : d.readText path = .ok text) (hroot : Xml.Element.read? text = some root) :
    d.readElement path = .ok root := by
  rw [readElement, htext]
  simp only [hroot]

/-- What an accepted package folder holds: a readable manifest, and a file for each entry. -/
lemma readPackage_eq_accepted_iff {folder : Path} {p : Package} {files : List ComponentFile} :
    d.readPackage folder = .accepted p files ↔
      d.isFile (folder.join Package.manifestFile) = true ∧
        (∃ root, d.readElement (folder.join Package.manifestFile) = .ok root ∧
          Package.ofManifestFile root folder (folder.fileName?.getD "")
            (folder.join Package.manifestFile).text = .ok p) ∧
        files = p.entries.items.map (d.readComponent p) := by
  unfold readPackage
  dsimp only
  by_cases hfile : d.isFile (folder.join Package.manifestFile) = true
  · rw [hfile, if_neg (by simp)]
    simp only [true_and]
    cases hread : d.readElement (folder.join Package.manifestFile) with
    | error reason => simp
    | ok root =>
        simp only [Except.ok.injEq, exists_eq_left']
        cases hpackage : Package.ofManifestFile root folder (folder.fileName?.getD "")
            (folder.join Package.manifestFile).text with
        | error problem => simp
        | ok package =>
            simp only [PackageFolder.accepted.injEq, Except.ok.injEq]
            exact and_congr_right fun heq => by rw [heq, eq_comm]
  · simp [hfile]

/-- The package of a folder is registered under the path of the folder. -/
lemma path_of_readPackage {folder : Path} {p : Package} {files : List ComponentFile}
    (h : d.readPackage folder = .accepted p files) : p.path = folder := by
  obtain ⟨-, ⟨root, -, hpackage⟩, -⟩ := readPackage_eq_accepted_iff.mp h
  exact (Package.ofManifestFile_eq_ok hpackage).1

/-- The file of an entry gives a component exactly when it is a readable document. -/
lemma component?_readComponent_eq_some_iff {p : Package} {entry : Package.Entry} {c : Component} :
    (d.readComponent p entry).component? = some c ↔ ∃ root, d.readElement entry.path = .ok root ∧
      c = (Component.Reading.ofElement p entry root).component := by
  rw [readComponent]
  cases hread : d.readElement entry.path with
  | error reason => simp [ComponentFile.component?]
  | ok root => simp [ComponentFile.component?, eq_comm]

/-- The files of a package give components of the package. -/
lemma packageId_of_readPackage {folder : Path} {p : Package} {files : List ComponentFile}
    (h : d.readPackage folder = .accepted p files) :
    ∀ c ∈ files.filterMap ComponentFile.component?, c.packageId = p.id := by
  intro c hc
  obtain ⟨-, -, rfl⟩ := readPackage_eq_accepted_iff.mp h
  obtain ⟨file, hfile, hcomponent⟩ := List.mem_filterMap.mp hc
  obtain ⟨entry, -, rfl⟩ := List.mem_map.mp hfile
  obtain ⟨root, -, rfl⟩ := component?_readComponent_eq_some_iff.mp hcomponent
  rfl

/-- The files of a package give nothing that is found in another package. -/
lemma find?_files_eq_none {folder : Path} {p : Package} {files : List ComponentFile}
    (h : d.readPackage folder = .accepted p files) {packageId : String} (hne : p.id ≠ packageId)
    (id : String) : ((files.filterMap ComponentFile.component?).reverse.find?
      fun c => c.key = ⟨packageId, id⟩) = none := by
  rw [List.find?_eq_none]
  intro c hc hkey
  have hown : c.packageId = p.id := packageId_of_readPackage h c (List.mem_reverse.mp hc)
  have hkey : c.packageId = packageId := congrArg Component.Key.packageId (of_decide_eq_true hkey)
  exact hne (hown.symm.trans hkey)

end Disk

/-! ### Adding folders -/

namespace Assets

/-- Adding an accepted package registers it, enters its components and notes its problems. -/
lemma add_accepted_eq_ok_iff {a b : Assets} {p : Package} {files : List ComponentFile} :
    a.add (.accepted p files) = .ok b ↔ p.id ∉ a.registry.packages.keys ∧
      b = { a.request (files.flatMap ComponentFile.requests) with
        registry :=
          { packages := a.registry.packages.insert p
            components := (files.filterMap ComponentFile.component?).foldl Catalog.insert
              a.registry.components
            warnings := a.registry.warnings ++ files.flatMap ComponentFile.problems } } := by
  have hadd : a.add (.accepted p files) = .ok b ↔ ∃ r, a.registry.insertPackage p = .ok r ∧
      { a.request (files.flatMap ComponentFile.requests) with
        registry := (r.insertComponents (files.filterMap ComponentFile.component?)).warnAll
          (files.flatMap ComponentFile.problems) } = b := by
    simp only [add]
    cases a.registry.insertPackage p <;> simp [Except.map, PackageFolder.problems]
  rw [hadd]
  simp only [Registry.insertPackage_eq_ok_iff, Registry.insertComponents_eq, Registry.warnAll_eq]
  constructor
  · rintro ⟨r, ⟨hnew, rfl⟩, rfl⟩
    exact ⟨hnew, rfl⟩
  · rintro ⟨hnew, rfl⟩
    exact ⟨_, ⟨hnew, rfl⟩, rfl⟩

end Assets

/-- Parsing goes on with what is known after the first folder, unless that ends it. -/
lemma Disk.outcome_parseInto_cons (d : Disk) (a : Assets) (folder : Path) (rest : List Path) :
    (d.parseInto a (folder :: rest)).outcome =
      (a.add (d.readPackage folder)).bind fun next => (d.parseInto next rest).outcome := by
  simp only [parseInto]
  cases a.add (d.readPackage folder) with
  | error problem => rfl
  | ok next => rfl

/-- A parsing comes to its end if its first folder is added and the rest comes to its end. -/
lemma Disk.outcome_parseInto_cons_eq_ok_iff {d : Disk} {a b : Assets} {folder : Path}
    {rest : List Path} : (d.parseInto a (folder :: rest)).outcome = .ok b ↔
      ∃ next, a.add (d.readPackage folder) = .ok next ∧
        (d.parseInto next rest).outcome = .ok b := by
  rw [outcome_parseInto_cons]
  cases a.add (d.readPackage folder) with
  | error problem => simp [Except.bind]
  | ok next => simp [Except.bind]

/-! ### What is registered for a package -/

/-- A registry holds what the files of a package turned out to be: of two components with one
identifier the later one, and every problem. -/
structure Registry.Holds (r : Registry) (p : Package) (files : List ComponentFile) : Prop where
  component : ∀ id, r.component? ⟨p.id, id⟩ =
    (files.filterMap ComponentFile.component?).reverse.find? fun c => c.key = ⟨p.id, id⟩
  problem : ∀ problem ∈ files.flatMap ComponentFile.problems, problem ∈ r.warnings

/-- Every component belongs to a registered package, and every registered package was read from one
of the folders. -/
structure Assets.ReadFrom (d : Disk) (folders : List Path) (a : Assets) : Prop where
  owned : ∀ c ∈ a.registry.components.items, c.packageId ∈ a.registry.packages.keys
  package : ∀ p ∈ a.registry.packages.items, p.path ∈ folders ∧
    ∃ files, d.readPackage p.path = .accepted p files ∧ a.registry.Holds p files

/-- What is found in a package was read from the file of one of its entries. -/
lemma Registry.Holds.exists_reading {d : Disk} {r : Registry} {p : Package}
    (h : r.Holds p (p.entries.items.map (d.readComponent p))) {id : String} {c : Component}
    (hfound : r.component? ⟨p.id, id⟩ = some c) :
    ∃ entry ∈ p.entries.items, ∃ root, d.readElement entry.path = .ok root ∧
      c = (Component.Reading.ofElement p entry root).component := by
  rw [h.component] at hfound
  have hmem := List.mem_reverse.mp (List.mem_of_find?_eq_some hfound)
  obtain ⟨file, hfile, hcomponent⟩ := List.mem_filterMap.mp hmem
  obtain ⟨entry, hentry, rfl⟩ := List.mem_map.mp hfile
  exact ⟨entry, hentry, Disk.component?_readComponent_eq_some_iff.mp hcomponent⟩

namespace Assets

variable {d : Disk} {folders : List Path} {a b : Assets}

/-- Every component was read from the file of an entry of its package. -/
lemma ReadFrom.exists_reading (h : a.ReadFrom d folders) {c : Component}
    (hc : c ∈ a.registry.components.items) :
    ∃ p ∈ a.registry.packages.items, ∃ entry ∈ p.entries.items, ∃ root,
      d.readElement entry.path = .ok root ∧
        c = (Component.Reading.ofElement p entry root).component := by
  obtain ⟨p, hp, hpackage⟩ := List.mem_map.mp (h.owned c hc)
  obtain ⟨-, files, hread, hholds⟩ := h.package p hp
  obtain ⟨-, -, rfl⟩ := Disk.readPackage_eq_accepted_iff.mp hread
  have hfound : a.registry.component? ⟨p.id, c.id⟩ = some c :=
    Catalog.find?_eq_some_iff.mpr ⟨hc, Component.Key.ext hpackage.symm rfl⟩
  exact ⟨p, hp, hholds.exists_reading hfound⟩

/-- Nothing is found in a package that is not registered. -/
lemma ReadFrom.component?_eq_none (h : a.ReadFrom d folders) {packageId : String}
    (hnew : packageId ∉ a.registry.packages.keys) (id : String) :
    a.registry.component? ⟨packageId, id⟩ = none := by
  cases hfound : a.registry.component? ⟨packageId, id⟩ with
  | none => rfl
  | some c =>
      obtain ⟨hmem, hkey⟩ := Catalog.find?_eq_some_iff.mp hfound
      have howned := h.owned c hmem
      rw [show c.packageId = packageId from congrArg Component.Key.packageId hkey] at howned
      exact absurd howned hnew

/-- A folder that is no package leaves what was read as it is. -/
lemma ReadFrom.skip (h : a.ReadFrom d folders) {problem : Diagnostic}
    (hadd : a.add (.skipped problem) = .ok b) : b.ReadFrom d folders := by
  cases hadd
  refine ⟨h.owned, fun p hp => ?_⟩
  obtain ⟨hpath, files, hread, hholds⟩ := h.package p hp
  refine ⟨hpath, files, hread, hholds.component, fun other hother => ?_⟩
  exact List.mem_append_left _ (hholds.problem other hother)

/-- A package that is accepted is read, and what was read before stays. -/
lemma ReadFrom.accept (h : a.ReadFrom d folders) {p : Package} {files : List ComponentFile}
    (hpath : p.path ∈ folders) (hread : d.readPackage p.path = .accepted p files)
    (hadd : a.add (.accepted p files) = .ok b) : b.ReadFrom d folders := by
  obtain ⟨hnew, rfl⟩ := add_accepted_eq_ok_iff.mp hadd
  have hfound := Catalog.find?_foldl_insert a.registry.components
    (files.filterMap ComponentFile.component?)
  refine ⟨fun c hc => ?_, fun q hq => ?_⟩
  -- a component is from the new files or from before
  · have hc := (hfound c.key).symm.trans (Catalog.find?_eq_some_iff.mpr ⟨hc, rfl⟩)
    show c.packageId ∈ (a.registry.packages.insert p).keys
    rw [Catalog.keys_insert, if_neg hnew, List.mem_append, List.mem_singleton]
    rcases Option.or_eq_some_iff.mp hc with hc | ⟨-, hc⟩
    · have hmem := List.mem_reverse.mp (List.mem_of_find?_eq_some hc)
      exact Or.inr (Disk.packageId_of_readPackage hread c hmem)
    · exact Or.inl (h.owned c (Catalog.find?_eq_some_iff.mp hc).1)
  · rw [Catalog.items_insert_of_not_mem hnew, List.mem_append, List.mem_singleton] at hq
    rcases hq with hq | rfl
    · obtain ⟨hfolder, old, hold, hholds⟩ := h.package q hq
      have hne : p.id ≠ q.id := fun heq => hnew (heq ▸ List.mem_map_of_mem hq)
      refine ⟨hfolder, old, hold, fun id => ?_, fun problem hproblem => ?_⟩
      · refine (hfound ⟨q.id, id⟩).trans ?_
        rw [Disk.find?_files_eq_none hread hne, Option.none_or]
        exact hholds.component id
      · exact List.mem_append_left _ (hholds.problem problem hproblem)
    · refine ⟨hpath, files, hread, fun id => ?_, fun problem hproblem => ?_⟩
      · refine (hfound ⟨q.id, id⟩).trans ?_
        have hnone := h.component?_eq_none hnew id
        rw [show a.registry.components.find? ⟨q.id, id⟩ = none from hnone, Option.or_none]
      · exact List.mem_append_right _ hproblem

/-- Adding a folder of the list keeps what is known of the registry. -/
lemma ReadFrom.add (h : a.ReadFrom d folders) {folder : Path} (hfolder : folder ∈ folders)
    (hadd : a.add (d.readPackage folder) = .ok b) : b.ReadFrom d folders := by
  cases hread : d.readPackage folder with
  | skipped problem =>
      rw [hread] at hadd
      exact h.skip hadd
  | refused problem =>
      rw [hread] at hadd
      cases hadd
  | accepted p files =>
      obtain rfl := Disk.path_of_readPackage hread
      rw [hread] at hadd
      exact h.accept hfolder hread hadd

/-- Parsing further folders of the list keeps what is known of the registry. -/
lemma ReadFrom.of_parseInto {rest : List Path} (h : a.ReadFrom d folders)
    (hrest : ∀ folder ∈ rest, folder ∈ folders) (hparse : (d.parseInto a rest).outcome = .ok b) :
    b.ReadFrom d folders := by
  induction rest generalizing a with
  | nil =>
      cases hparse
      exact h
  | cons folder rest ih =>
      obtain ⟨hfolder, hrest⟩ := List.forall_mem_cons.mp hrest
      obtain ⟨next, hadd, hparse⟩ := Disk.outcome_parseInto_cons_eq_ok_iff.mp hparse
      exact ih (h.add hfolder hadd) hrest hparse

end Assets

/-- What a parsing has registered was read from the folders that it was given. -/
lemma Disk.readFrom_of_parse {d : Disk} {folders : List Path} {a : Assets}
    (hparse : (d.parse folders).outcome = .ok a) : a.ReadFrom d folders := by
  have hempty : Assets.empty.ReadFrom d folders := ⟨nofun, nofun⟩
  exact hempty.of_parseInto (fun _ h => h) hparse

end UiBinding
