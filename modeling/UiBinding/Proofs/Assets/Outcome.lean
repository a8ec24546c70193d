/-
The outcome of a parsing: which folder ends it, and how far it comes.

A folder ends a parsing if its manifest has a defect, or if its package identifier was declared by a
folder before it.  What was registered when a folder is begun are the packages of the folders before
it, so whether a folder ends the parsing can be told from the list of folders alone, and the first
one that does decides the outcome.

* `Disk.EndsAt` says of a place in a list of folders that the folder there ends a parsing;
* `PackageFolder.Ends` says it of a folder and of the packages registered before;
* `Assets.add_eq_error_iff` and `add_eq_enter`: one step, which fails or enters what the folder
  holds;
* `outcome_of_endsFrom` and `outcome_of_not_endsFrom`: the run, up to the first place that ends it
  or to the end of the list;
* `outcome_parse`: the outcome of a parsing.
-/
import UiBinding.Proofs.Assets.Manifest

namespace UiBinding

/-! ### One folder -/

/-- The problem for which a folder ends a parsing, if the packages `known` were registered before:
the folder is refused, or the identifier of its package is taken. -/
def PackageFolder.Ends (known : List Package) (folder : PackageFolder) (problem : Diagnostic) :
    Prop :=
  folder = .refused problem ∨ ∃ p ∈ folder.packages, ∃ earlier ∈ known,
    earlier.id = p.id ∧ problem = .duplicatePackageId p.id earlier.path.text p.path.text

/-- The components that the files of a folder turned out to be. -/
def PackageFolder.components : PackageFolder → List Component
  | accepted _ files => files.filterMap ComponentFile.component?
  | _ => []

/-- What was read once a folder has been added. -/
def Assets.enter (a : Assets) (folder : PackageFolder) : Assets where
  registry :=
    { packages := folder.packages.foldl Catalog.insert a.registry.packages
      components := folder.components.foldl Catalog.insert a.registry.components
      warnings := a.registry.warnings ++ folder.problems }
  requests := folder.requests.foldl Catalog.insert a.requests

/-- A package is refused for the package that has its identifier. -/
lemma Registry.insertPackage_eq_duplicate_iff {r : Registry} {p : Package} {problem : Diagnostic} :
    r.insertPackage p = .error problem ↔ ∃ earlier ∈ r.packages.items,
      earlier.id = p.id ∧ problem = .duplicatePackageId p.id earlier.path.text p.path.text := by
  have hfind : ∀ earlier, r.package? p.id = some earlier ↔
      earlier ∈ r.packages.items ∧ earlier.id = p.id := fun _ => Catalog.find?_eq_some_iff
  rw [insertPackage]
  cases hfound : r.package? p.id with
  | none =>
      have hnew : ∀ earlier ∈ r.packages.items, earlier.id ≠ p.id := by
        intro earlier hearlier hid
        rw [(hfind earlier).mpr ⟨hearlier, hid⟩] at hfound
        cases hfound
      simpa using fun earlier hearlier hid => absurd hid (hnew earlier hearlier)
  | some other =>
      constructor
      · intro h
        cases h
        exact ⟨other, ((hfind other).mp hfound).1, ((hfind other).mp hfound).2, rfl⟩
      · rintro ⟨earlier, hearlier, hid, rfl⟩
        rw [(hfind earlier).mpr ⟨hearlier, hid⟩] at hfound
        cases hfound
        rfl

namespace Assets

variable {a : Assets} {folder : PackageFolder}

/-- **One step**: adding a folder fails exactly if the folder ends a parsing. -/
lemma add_eq_error_iff {problem : Diagnostic} :
    a.add folder = .error problem ↔ folder.Ends a.registry.packages.items problem := by
  rw [PackageFolder.Ends]
  cases folder with
  | skipped other => simp [add, PackageFolder.packages]
  | refused other => simp [add, PackageFolder.packages]
  | accepted p files =>
      simp only [PackageFolder.packages, List.mem_singleton, exists_eq_left, reduceCtorEq,
        false_or, ← Registry.insertPackage_eq_duplicate_iff, add]
      cases a.registry.insertPackage p <;> simp [Except.map]

/-- A folder that does not end a parsing is added. -/
lemma add_eq_enter (h : ∀ problem, ¬ folder.Ends a.registry.packages.items problem) :
    a.add folder = .ok (a.enter folder) := by
  cases hadd : a.add folder with
  | error problem => exact absurd (add_eq_error_iff.mp hadd) (h problem)
  | ok b =>
      cases folder with
      | skipped problem =>
          cases hadd
          rw [Registry.warnAll_eq]
          rfl
      | refused problem => cases hadd
      | accepted p files =>
          rw [(add_accepted_eq_ok_iff.mp hadd).2]
          rfl

/-- The packages of a folder are registered after all others. -/
lemma packages_enter (h : ∀ problem, ¬ folder.Ends a.registry.packages.items problem) :
    (a.enter folder).registry.packages.items = a.registry.packages.items ++ folder.packages := by
  simpa using (gathers_of_add (add_eq_enter h)).packages

end Assets

/-! ### A list of folders -/

namespace Disk

variable (d : Disk)

/-- The problem for which the folder at a place ends a parsing that begins with the packages
`known`.  The packages of the folders before it are taken to have been registered. -/
def EndsFrom (known : List Package) (folders : List Path) (i : ℕ) (problem : Diagnostic) : Prop :=
  ∃ folder, folders[i]? = some folder ∧
    (d.readPackage folder).Ends (known ++ (folders.take i).filterMap d.package?) problem

variable {d} {known : List Package} {folder : Path} {rest : List Path} {i : ℕ}
  {problem : Diagnostic}

lemma endsFrom_zero : d.EndsFrom known (folder :: rest) 0 problem ↔
    (d.readPackage folder).Ends known problem := by
  simp [EndsFrom]

/-- Behind the first folder a parsing goes on with the package of that folder. -/
lemma endsFrom_succ : d.EndsFrom known (folder :: rest) (i + 1) problem ↔
    d.EndsFrom (known ++ (d.readPackage folder).packages) rest i problem := by
  rw [EndsFrom, EndsFrom, packages_readPackage, List.take_succ_cons, List.append_assoc]
  cases h : d.package? folder <;> simp [h]

/-- A parsing that the first folder does not end goes on behind it. -/
lemma parseInto_cons_of_add {a b : Assets} (h : a.add (d.readPackage folder) = .ok b)
    (rest : List Path) :
    (d.parseInto a (folder :: rest)).outcome = (d.parseInto b rest).outcome ∧
      (d.parseInto a (folder :: rest)).visited = folder :: (d.parseInto b rest).visited := by
  simp only [parseInto, h, and_self]

/-- **The first place that ends a parsing** decides its outcome, and nothing is begun behind it. -/
lemma outcome_of_endsFrom {a : Assets} {folders : List Path}
    (h : d.EndsFrom a.registry.packages.items folders i problem)
    (hfirst : ∀ j < i, ∀ other, ¬ d.EndsFrom a.registry.packages.items folders j other) :
    (d.parseInto a folders).outcome = .error problem ∧
      (d.parseInto a folders).visited = folders.take (i + 1) := by
  -- by induction on the folders, with the packages that were registered before them
  induction folders generalizing a i with
  | nil =>
      obtain ⟨folder, hfolder, -⟩ := h
      cases hfolder
  | cons folder rest ih =>
      cases i with
      | zero =>
          have hadd := Assets.add_eq_error_iff.mpr (endsFrom_zero.mp h)
          simp [parseInto, hadd]
      | succ i =>
          have hnot := fun other hends => hfirst 0 i.succ_pos other (endsFrom_zero.mpr hends)
          have hpackages := Assets.packages_enter hnot
          rw [endsFrom_succ, ← hpackages] at h
          have hfirst : ∀ j < i, ∀ other, ¬ d.EndsFrom
              (a.enter (d.readPackage folder)).registry.packages.items rest j other := by
            intro j hj other hends
            rw [hpackages, ← endsFrom_succ] at hends
            exact hfirst (j + 1) (Nat.succ_lt_succ hj) other hends
          obtain ⟨houtcome, hvisited⟩ := ih h hfirst
          obtain ⟨heq, heqv⟩ := parseInto_cons_of_add (Assets.add_eq_enter hnot) rest
          rw [heq, heqv, houtcome, hvisited]
          exact ⟨rfl, rfl⟩

/-- **A parsing that no place ends** comes to the end of its list. -/
lemma outcome_of_not_endsFrom {a : Assets} {folders : List Path}
    (h : ∀ i problem, ¬ d.EndsFrom a.registry.packages.items folders i problem) :
    (∃ b, (d.parseInto a folders).outcome = .ok b) ∧
      (d.parseInto a folders).visited = folders := by
  induction folders generalizing a with
  | nil => exact ⟨⟨a, rfl⟩, rfl⟩
  | cons folder rest ih =>
      have hnot := fun other hends => h 0 other (endsFrom_zero.mpr hends)
      have hrest : ∀ i problem, ¬ d.EndsFrom
          (a.enter (d.readPackage folder)).registry.packages.items rest i problem := by
        intro i problem hends
        rw [Assets.packages_enter hnot, ← endsFrom_succ] at hends
        exact h (i + 1) problem hends
      obtain ⟨houtcome, hvisited⟩ := ih hrest
      obtain ⟨heq, heqv⟩ := parseInto_cons_of_add (Assets.add_eq_enter hnot) rest
      rw [heq, heqv, hvisited]
      exact ⟨houtcome, rfl⟩

/-! ### The outcome -/

/-- The problem for which the folder at a place of a list ends a parsing: its manifest can be read
and has a defect, or its package has the identifier of a package at an earlier place. -/
inductive EndsAt (d : Disk) (folders : List Path) (i : ℕ) : Diagnostic → Prop
  | malformed {folder : Path} {root : Xml.Element} {defect : Package.ManifestDefect}
      (hfolder : folders[i]? = some folder) (hread : d.manifest? folder = some root)
      (hdefect : Package.HasDefect root defect) :
      EndsAt d folders i
        (.malformedManifest (folder.join Package.manifestFile).text defect.reason)
  | duplicate {j : ℕ} {earlier folder : Path} {p q : Package} (hj : j < i)
      (hearlier : folders[j]? = some earlier) (hp : d.package? earlier = some p)
      (hfolder : folders[i]? = some folder) (hq : d.package? folder = some q) (hid : p.id = q.id) :
      EndsAt d folders i (.duplicatePackageId q.id earlier.text folder.text)

variable {folders : List Path}

/-- The packages of the folders before a place. -/
lemma mem_filterMap_take_iff {p : Package} : p ∈ (folders.take i).filterMap d.package? ↔
    ∃ j < i, ∃ earlier, folders[j]? = some earlier ∧ d.package? earlier = some p := by
  rw [List.mem_filterMap]
  simp only [List.mem_iff_getElem?, List.getElem?_take, Option.ite_none_right_eq_some]
  constructor
  · rintro ⟨earlier, ⟨j, hj, hearlier⟩, hp⟩
    exact ⟨j, hj, earlier, hearlier, hp⟩
  · rintro ⟨j, hj, earlier, hearlier, hp⟩
    exact ⟨earlier, ⟨j, hj, hearlier⟩, hp⟩

/-- A parsing that begins with nothing is ended by what the list of folders tells. -/
lemma endsFrom_nil_iff : d.EndsFrom [] folders i problem ↔ d.EndsAt folders i problem := by
  simp only [EndsFrom, PackageFolder.Ends, packages_readPackage, Option.mem_toList,
    readPackage_eq_refused_iff, List.nil_append, mem_filterMap_take_iff]
  constructor
  · rintro ⟨folder, hfolder, ⟨root, defect, hread, hdefect, rfl⟩ |
      ⟨q, hq, p, ⟨j, hj, earlier, hearlier, hp⟩, hid, rfl⟩⟩
    · exact .malformed hfolder hread hdefect
    · rw [path_of_package? hp, path_of_package? hq]
      exact .duplicate hj hearlier hp hfolder hq hid
  · rintro (⟨hfolder, hread, hdefect⟩ | ⟨hj, hearlier, hp, hfolder, hq, hid⟩)
    · exact ⟨_, hfolder, Or.inl ⟨_, _, hread, hdefect, rfl⟩⟩
    · refine ⟨_, hfolder, Or.inr ⟨_, hq, _, ⟨_, hj, _, hearlier, hp⟩, hid, ?_⟩⟩
      rw [path_of_package? hp, path_of_package? hq]

variable (d folders)

/-- **The outcome of a parsing.**  It fails exactly if some place of the list ends it.  The error is
that of the first such place, and the folders up to it have been begun, in order.  If there is none,
every folder has been begun, and the packages are those of the accepted manifests, in order. -/
theorem outcome_parse :
    ((∃ problem, (d.parse folders).outcome = .error problem) ↔
      ∃ i problem, d.EndsAt folders i problem) ∧
    (∀ i problem, d.EndsAt folders i problem →
      (∀ j < i, ∀ other, ¬ d.EndsAt folders j other) →
        (d.parse folders).outcome = .error problem ∧
          (d.parse folders).visited = folders.take (i + 1)) ∧
    ((∀ i problem, ¬ d.EndsAt folders i problem) →
      (∃ a, (d.parse folders).outcome = .ok a ∧
        a.registry.packages.items = folders.filterMap d.package?) ∧
      (d.parse folders).visited = folders) := by
  have hends : ∀ i problem, d.EndsAt folders i problem →
      (∀ j < i, ∀ other, ¬ d.EndsAt folders j other) →
        (d.parse folders).outcome = .error problem ∧
          (d.parse folders).visited = folders.take (i + 1) := by
    simp only [← endsFrom_nil_iff]
    exact fun i problem => outcome_of_endsFrom (a := .empty)
  have hnot : (∀ i problem, ¬ d.EndsAt folders i problem) →
      (∃ a, (d.parse folders).outcome = .ok a ∧
        a.registry.packages.items = folders.filterMap d.package?) ∧
      (d.parse folders).visited = folders := by
    simp only [← endsFrom_nil_iff]
    intro h
    obtain ⟨⟨a, ha⟩, hvisited⟩ := outcome_of_not_endsFrom (a := .empty) h
    refine ⟨⟨a, ha, ?_⟩, hvisited⟩
    rw [(gathers_of_parseInto ha).packages, List.flatMap_map, List.filterMap_eq_flatMap_toList]
    simp only [packages_readPackage]
    rfl
  refine ⟨⟨?_, ?_⟩, hends, hnot⟩
  · rintro ⟨problem, herror⟩
    by_contra hnone
    push Not at hnone
    obtain ⟨⟨a, ha, -⟩, -⟩ := hnot hnone
    rw [ha] at herror
    cases herror
  · intro h
    classical
    -- the first place that ends it
    obtain ⟨problem, hproblem⟩ := Nat.find_spec h
    have hfirst : ∀ j < Nat.find h, ∀ other, ¬ d.EndsAt folders j other :=
      fun j hj other hother => Nat.find_min h hj ⟨other, hother⟩
    exact ⟨problem, (hends _ problem hproblem hfirst).1⟩

/-- A package folder that is listed three times ends the parsing at its second place, and the third
one is not begun. -/
theorem outcome_parse_crowded :
    ∃ p, crowded.package? ⟨"A"⟩ = some p ∧
      crowded.EndsAt [⟨"A"⟩, ⟨"A"⟩, ⟨"A"⟩] 1 (.duplicatePackageId p.id "A" "A") ∧
      (∀ j < 1, ∀ other, ¬ crowded.EndsAt [⟨"A"⟩, ⟨"A"⟩, ⟨"A"⟩] j other) ∧
      (crowded.parse [⟨"A"⟩, ⟨"A"⟩, ⟨"A"⟩]).outcome = .error (.duplicatePackageId p.id "A" "A") ∧
      (crowded.parse [⟨"A"⟩, ⟨"A"⟩, ⟨"A"⟩]).visited = [⟨"A"⟩, ⟨"A"⟩] := by
  obtain ⟨p, hread, -⟩ := readPackage_packaged "<component/>"
  have hpackage : crowded.package? ⟨"A"⟩ = some p := package?_eq_some_iff.mpr ⟨_, hread⟩
  have hsecond : crowded.EndsAt [⟨"A"⟩, ⟨"A"⟩, ⟨"A"⟩] 1 (.duplicatePackageId p.id "A" "A") :=
    .duplicate Nat.zero_lt_one rfl hpackage rfl hpackage rfl
  have hfirst : ∀ j < 1, ∀ other, ¬ crowded.EndsAt [⟨"A"⟩, ⟨"A"⟩, ⟨"A"⟩] j other := by
    intro j hj other hends
    obtain rfl := Nat.lt_one_iff.mp hj
    cases hends with
    | malformed hfolder hmanifest hdefect =>
        cases hfolder
        have hrefused := readPackage_eq_refused_iff.mpr ⟨_, _, hmanifest, hdefect, rfl⟩
        cases hread.symm.trans hrefused
    | duplicate hearlier => exact Nat.not_lt_zero _ hearlier
  obtain ⟨-, hends, -⟩ := outcome_parse crowded [⟨"A"⟩, ⟨"A"⟩, ⟨"A"⟩]
  obtain ⟨houtcome, hvisited⟩ := hends 1 _ hsecond hfirst
  exact ⟨p, hpackage, hsecond, hfirst, houtcome, hvisited⟩

end Disk

end UiBinding
