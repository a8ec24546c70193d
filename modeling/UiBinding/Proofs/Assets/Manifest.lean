/-
Manifests: what becomes of a folder, by the manifest that it holds.

A manifest that cannot be read is passed over, whatever the reason; one that can be read has a
defect, or it declares the package of the folder.

* `Package.HasDefect` says what is wrong with a manifest, and `ofManifest_eq_error_iff` that exactly
  this is found;
* `Disk.manifest?` and `Disk.package?`: what can be read in a folder, and the package that it
  declares;
* `readPackage_eq_skipped_iff`, `readPackage_eq_refused_iff` and `package?_eq_some_iff`: when a
  folder is passed over, when it is refused, and when it is accepted.
-/
import UiBinding.Proofs.Assets.Declared
import UiBinding.Proofs.Assets.Order

namespace UiBinding

/-! ### Defects -/

namespace Package

/-- Whether the sections of a manifest begin as they should. -/
def HasSections (root : Xml.Element) : Prop :=
  ["resources", "publish"] <+: root.children.map Xml.Element.name

/-- What is wrong with a manifest: its sections do not begin with the resources and what is
published, or they do and its root has no identifier or an empty one. -/
inductive HasDefect (root : Xml.Element) : ManifestDefect → Prop
  | sections (h : ¬ HasSections root) :
      HasDefect root (.sections (root.children.map Xml.Element.name))
  | noIdentifier (h : HasSections root) (hid : ∀ id, root.attribute? "id" = some id → id = "") :
      HasDefect root .noIdentifier

/-- Resources are found exactly where the sections begin as they should. -/
lemma isSome_resourceSection?_iff (root : Xml.Element) :
    (resourceSection? root).isSome = true ↔ HasSections root := by
  rw [resourceSection?, HasSections]
  rcases root.children with _ | ⟨resources, _ | ⟨publish, rest⟩⟩
  · simp
  · simp
  · simp only [List.map_cons, List.cons_prefix_cons, List.nil_prefix, and_true]
    split <;> simp_all [eq_comm]

/-- An attribute is missing or empty exactly if every value of it is empty. -/
lemma nonEmptyAttribute?_eq_none_iff (e : Xml.Element) (name : String) :
    e.nonEmptyAttribute? name = none ↔ ∀ value, e.attribute? name = some value → value = "" := by
  simp [Xml.Element.nonEmptyAttribute?, Option.filter_eq_none_iff]

/-- **A manifest is not accepted** exactly if it has a defect, and that one is found. -/
lemma ofManifest_eq_error_iff {root : Xml.Element} {folder : Path} {name : String}
    {defect : ManifestDefect} :
    ofManifest root folder name = .error defect ↔ HasDefect root defect := by
  have hsections := isSome_resourceSection?_iff root
  have hid := nonEmptyAttribute?_eq_none_iff root "id"
  rw [ofManifest]
  cases hresources : resourceSection? root with
  | none =>
      rw [hresources, Option.isSome_none] at hsections
      have hnone : ¬ HasSections root := fun h => Bool.false_ne_true (hsections.mpr h)
      constructor
      · intro h
        cases h
        exact .sections hnone
      · rintro (_ | ⟨h, -⟩)
        · rfl
        · exact absurd h hnone
  | some resources =>
      rw [hresources, Option.isSome_some] at hsections
      have hbegin : HasSections root := hsections.mp rfl
      cases hfound : root.nonEmptyAttribute? "id" with
      | none =>
          constructor
          · intro h
            cases h
            exact .noIdentifier hbegin (hid.mp hfound)
          · rintro (h | _)
            · exact absurd hbegin h
            · rfl
      | some id =>
          constructor
          · intro h
            cases h
          · rintro (h | ⟨-, hempty⟩)
            · exact absurd hbegin h
            · rw [hid.mpr hempty] at hfound
              cases hfound

end Package

/-! ### Folders -/

namespace Disk

variable (d : Disk) (folder : Path)

/-- The root of the manifest in a folder, if there is one and it can be read. -/
def manifest? : Option Xml.Element :=
  if d.isFile (folder.join Package.manifestFile) then
    (d.readElement (folder.join Package.manifestFile)).toOption
  else none

/-- The package that a folder holds, if its manifest can be read and is accepted. -/
def package? : Option Package :=
  (d.manifest? folder).bind fun root =>
    (Package.ofManifest root folder (folder.fileName?.getD "")).toOption

/-- Why a folder is passed over: its manifest is missing or cannot be read. -/
inductive PassesOver : Diagnostic → Prop
  | missing (h : d.isFile (folder.join Package.manifestFile) = false) :
      PassesOver (.missingManifest (folder.join Package.manifestFile).text)
  | unreadable {reason : String} (h : d.isFile (folder.join Package.manifestFile) = true)
      (hread : d.readElement (folder.join Package.manifestFile) = .error reason) :
      PassesOver (.unreadableManifest (folder.join Package.manifestFile).text reason)

variable {d folder}

/-- What was read in a folder decides what becomes of it. -/
lemma readPackage_of_manifest? {root : Xml.Element} (h : d.manifest? folder = some root) :
    d.readPackage folder =
      match Package.ofManifest root folder (folder.fileName?.getD "") with
      | .error defect =>
          .refused (.malformedManifest (folder.join Package.manifestFile).text defect.reason)
      | .ok package => .accepted package (package.entries.items.map (d.readComponent package)) := by
  obtain ⟨hfile, hread⟩ := Option.ite_none_right_eq_some.mp h
  simp only [readPackage, hfile, eq_ok_of_toOption_eq_some hread, Package.ofManifestFile]
  cases Package.ofManifest root folder (folder.fileName?.getD "") <;> rfl

/-- A folder of which nothing was read is passed over. -/
lemma readPackage_of_manifest?_eq_none (h : d.manifest? folder = none) :
    ∃ problem, d.PassesOver folder problem ∧ d.readPackage folder = .skipped problem := by
  rw [manifest?] at h
  cases hfile : d.isFile (folder.join Package.manifestFile) with
  | false => exact ⟨_, .missing hfile, by simp [readPackage, hfile]⟩
  | true =>
      rw [if_pos hfile] at h
      cases hread : d.readElement (folder.join Package.manifestFile) with
      | error reason => exact ⟨_, .unreadable hfile hread, by simp [readPackage, hfile, hread]⟩
      | ok root =>
          rw [hread] at h
          cases h

/-- Of a folder that is passed over nothing was read. -/
lemma PassesOver.manifest?_eq_none {problem : Diagnostic} (h : d.PassesOver folder problem) :
    d.manifest? folder = none := by
  cases h with
  | missing hfile => simp [manifest?, hfile]
  | unreadable hfile hread => simp [manifest?, hread, Except.toOption]

/-- A folder is passed over for one reason. -/
lemma PassesOver.unique {problem other : Diagnostic} (h : d.PassesOver folder problem)
    (hother : d.PassesOver folder other) : problem = other := by
  cases h <;> cases hother <;> simp_all

/-- **A folder is skipped** exactly if its manifest is missing or cannot be read. -/
lemma readPackage_eq_skipped_iff {problem : Diagnostic} :
    d.readPackage folder = .skipped problem ↔ d.PassesOver folder problem := by
  cases hmanifest : d.manifest? folder with
  | none =>
      obtain ⟨other, hpasses, hread⟩ := readPackage_of_manifest?_eq_none hmanifest
      rw [hread, PackageFolder.skipped.injEq]
      exact ⟨fun h => h ▸ hpasses, fun h => hpasses.unique h⟩
  | some root =>
      rw [readPackage_of_manifest? hmanifest]
      constructor
      · intro h
        split at h <;> cases h
      · intro h
        rw [h.manifest?_eq_none] at hmanifest
        cases hmanifest

/-- **A folder is refused** exactly if its manifest can be read and has a defect. -/
lemma readPackage_eq_refused_iff {problem : Diagnostic} :
    d.readPackage folder = .refused problem ↔ ∃ root defect,
      d.manifest? folder = some root ∧ Package.HasDefect root defect ∧
        problem = .malformedManifest (folder.join Package.manifestFile).text defect.reason := by
  cases hmanifest : d.manifest? folder with
  | none =>
      obtain ⟨other, -, hread⟩ := readPackage_of_manifest?_eq_none hmanifest
      simp [hread]
  | some root =>
      rw [readPackage_of_manifest? hmanifest]
      constructor
      · intro h
        split at h
        · next defect hdefect =>
            cases h
            exact ⟨root, defect, rfl, Package.ofManifest_eq_error_iff.mp hdefect, rfl⟩
        · cases h
      · rintro ⟨_, defect, hroot, hdefect, rfl⟩
        cases hroot
        rw [Package.ofManifest_eq_error_iff.mpr hdefect]

/-- **A folder is accepted** exactly if its manifest declares a package. -/
lemma package?_eq_some_iff {p : Package} :
    d.package? folder = some p ↔ ∃ files, d.readPackage folder = .accepted p files := by
  rw [package?]
  cases hmanifest : d.manifest? folder with
  | none =>
      obtain ⟨problem, -, hread⟩ := readPackage_of_manifest?_eq_none hmanifest
      simp [hread]
  | some root =>
      rw [readPackage_of_manifest? hmanifest, Option.bind_some]
      cases Package.ofManifest root folder (folder.fileName?.getD "") <;> simp [Except.toOption]

/-- What a folder holds is the package that its manifest declares. -/
lemma packages_readPackage : (d.readPackage folder).packages = (d.package? folder).toList := by
  cases hpackage : d.package? folder with
  | some p =>
      obtain ⟨files, hread⟩ := package?_eq_some_iff.mp hpackage
      rw [hread]
      rfl
  | none =>
      cases hread : d.readPackage folder with
      | accepted p files =>
          rw [package?_eq_some_iff.mpr ⟨files, hread⟩] at hpackage
          cases hpackage
      | skipped problem => rfl
      | refused problem => rfl

/-- The package of a folder is placed in it. -/
lemma path_of_package? {p : Package} (h : d.package? folder = some p) : p.path = folder := by
  obtain ⟨files, hread⟩ := package?_eq_some_iff.mp h
  exact path_of_readPackage hread

end Disk

end UiBinding
