/-
The order of the folders: what a parsing gathers, and that it gathers the same in every order.

What a folder turns out to be does not depend on what was read before it.  A parsing ends early only
where a folder is refused or a package identifier is taken, so whether it comes to its end does not
depend on the order.  At its end it has gathered what each folder holds, folder by folder.

* `PackageFolder.packages` and `PackageFolder.requests`: what one folder holds;
* `Assets.Gathers` is what a list of folders adds to what was read before;
* `exists_parseInto_iff`: when a parsing comes to its end;
* `Assets.SameUpToOrder` is what is left of two parsings when the order is forgotten;
* `sameUpToOrder_of_parse`: parsings of the same folders agree in this.
-/
import UiBinding.Proofs.Assets.Registration

namespace UiBinding

/-! ### What one folder holds -/

namespace PackageFolder

/-- The package that a folder turned out to be, if it is one. -/
def packages : PackageFolder → List Package
  | accepted package _ => [package]
  | _ => []

/-- The addresses that the files of a folder ask to be exported. -/
def requests : PackageFolder → List String
  | accepted _ files => files.flatMap ComponentFile.requests
  | _ => []

/-- The identifiers of the packages that folders turned out to be. -/
def packageIds (folders : List PackageFolder) : List String :=
  (folders.flatMap packages).map Package.id

lemma packageIds_cons (folder : PackageFolder) (folders : List PackageFolder) :
    packageIds (folder :: folders) = packageIds [folder] ++ packageIds folders := by
  simp [packageIds]

end PackageFolder

/-! ### What a list of folders adds -/

/-- What was read when folders were added to what was known before: every package, request and
problem of theirs, and nothing else. -/
structure Assets.Gathers (a : Assets) (folders : List PackageFolder) (b : Assets) : Prop where
  packages : b.registry.packages.items =
    a.registry.packages.items ++ folders.flatMap PackageFolder.packages
  requests : ∀ url, b.requests.contains url = true ↔
    url ∈ folders.flatMap PackageFolder.requests ∨ a.requests.contains url = true
  warnings : b.registry.warnings =
    a.registry.warnings ++ folders.flatMap PackageFolder.problems

namespace Assets

variable {a b c : Assets}

/-- Without folders nothing is added. -/
lemma Gathers.refl (a : Assets) : a.Gathers [] a :=
  ⟨by simp, by simp, by simp⟩

/-- What one folder adds comes before what the others add. -/
lemma Gathers.cons {folder : PackageFolder} {folders : List PackageFolder}
    (h : a.Gathers [folder] b) (hrest : b.Gathers folders c) : a.Gathers (folder :: folders) c := by
  refine ⟨?_, fun url => ?_, ?_⟩
  · rw [hrest.packages, h.packages]
    simp
  · rw [hrest.requests, h.requests]
    simp only [List.flatMap_cons, List.flatMap_nil, List.mem_append, List.append_nil]
    tauto
  · rw [hrest.warnings, h.warnings]
    simp

/-- The identifiers that are taken after folders were added. -/
lemma Gathers.keys {folders : List PackageFolder} (h : a.Gathers folders b) :
    b.registry.packages.keys =
      a.registry.packages.keys ++ PackageFolder.packageIds folders := by
  rw [Catalog.keys, h.packages, List.map_append]
  rfl

/-- A folder can be added unless it is refused or its identifier is taken. -/
lemma exists_add_iff (a : Assets) (folder : PackageFolder) :
    (∃ b, a.add folder = .ok b) ↔
      (∀ problem, folder ≠ .refused problem) ∧
        ∀ id ∈ PackageFolder.packageIds [folder], id ∉ a.registry.packages.keys := by
  cases folder with
  | skipped problem => simp [add, PackageFolder.packageIds, PackageFolder.packages]
  | refused problem => simp [add]
  | accepted p files =>
      simp [add_accepted_eq_ok_iff, PackageFolder.packageIds, PackageFolder.packages]

/-- Adding a folder adds what it holds. -/
lemma gathers_of_add {folder : PackageFolder} (h : a.add folder = .ok b) :
    a.Gathers [folder] b := by
  cases folder with
  | skipped problem =>
      cases h
      refine ⟨?_, ?_, ?_⟩ <;>
        simp [Registry.warnAll_eq, PackageFolder.packages, PackageFolder.requests,
          PackageFolder.problems]
  | refused problem => cases h
  | accepted p files =>
      obtain ⟨hnew, rfl⟩ := add_accepted_eq_ok_iff.mp h
      refine ⟨?_, fun url => ?_, ?_⟩
      · rw [List.flatMap_singleton]
        exact Catalog.items_insert_of_not_mem hnew
      · rw [List.flatMap_singleton, request, Catalog.contains_foldl_insert_iff, List.map_id]
        rfl
      · rw [List.flatMap_singleton]
        rfl

end Assets

namespace Disk

variable {d : Disk}

/-- A parsing that comes to its end adds what the folders hold. -/
lemma gathers_of_parseInto {a b : Assets} {folders : List Path}
    (h : (d.parseInto a folders).outcome = .ok b) : a.Gathers (folders.map d.readPackage) b := by
  induction folders generalizing a with
  | nil =>
      cases h
      exact Assets.Gathers.refl _
  | cons folder rest ih =>
      obtain ⟨next, hadd, h⟩ := outcome_parseInto_cons_eq_ok_iff.mp h
      exact (Assets.gathers_of_add hadd).cons (ih h)

/-- **When a parsing comes to its end**: no folder is refused, and all package identifiers are
different, those that were taken before included. -/
lemma exists_parseInto_iff {a : Assets} {folders : List Path} :
    (∃ b, (d.parseInto a folders).outcome = .ok b) ↔
      (∀ folder ∈ folders, ∀ problem, d.readPackage folder ≠ .refused problem) ∧
        (a.registry.packages.keys ++
          PackageFolder.packageIds (folders.map d.readPackage)).Nodup := by
  induction folders generalizing a with
  | nil =>
      have hdistinct : a.registry.packages.keys.Nodup := a.registry.packages.distinct
      simpa [parseInto, PackageFolder.packageIds] using hdistinct
  | cons folder rest ih =>
      rw [List.map_cons, PackageFolder.packageIds_cons, ← List.append_assoc,
        List.forall_mem_cons]
      have hstep := a.exists_add_iff (d.readPackage folder)
      constructor
      · rintro ⟨b, hb⟩
        obtain ⟨next, hadd, hb⟩ := outcome_parseInto_cons_eq_ok_iff.mp hb
        obtain ⟨hrest, hnodup⟩ := ih.mp ⟨b, hb⟩
        rw [(Assets.gathers_of_add hadd).keys] at hnodup
        exact ⟨⟨(hstep.mp ⟨next, hadd⟩).1, hrest⟩, hnodup⟩
      · rintro ⟨⟨hfolder, hrest⟩, hnodup⟩
        have hnew : ∀ id ∈ PackageFolder.packageIds [d.readPackage folder],
            id ∉ a.registry.packages.keys := by
          intro id hid htaken
          exact List.disjoint_of_nodup_append hnodup.of_append_left htaken hid
        obtain ⟨next, hadd⟩ := hstep.mpr ⟨hfolder, hnew⟩
        rw [← (Assets.gathers_of_add hadd).keys] at hnodup
        obtain ⟨b, hb⟩ := ih.mpr ⟨hrest, hnodup⟩
        exact ⟨b, outcome_parseInto_cons_eq_ok_iff.mpr ⟨next, hadd, hb⟩⟩

end Disk

/-! ### Without the order -/

/-- Two registries hold the same packages and components under the same keys, and the same
problems. -/
structure Registry.SameUpToOrder (r s : Registry) : Prop where
  package : ∀ id, r.package? id = s.package? id
  component : ∀ key, r.component? key = s.component? key
  warnings : r.warnings.Perm s.warnings

/-- What was read twice is the same apart from the order. -/
structure Assets.SameUpToOrder (a b : Assets) : Prop where
  registry : a.registry.SameUpToOrder b.registry
  request : ∀ url, a.requests.contains url = b.requests.contains url

namespace Assets

variable {d : Disk} {folders folders' : List Path} {a b : Assets}

/-- What is registered for a package is read from its folder, whatever was read before. -/
lemma ReadFrom.component?_eq (ha : a.ReadFrom d folders) (hb : b.ReadFrom d folders')
    (hpackage : ∀ id, a.registry.package? id = b.registry.package? id) (key : Component.Key) :
    a.registry.component? key = b.registry.component? key := by
  have hsame := hpackage key.packageId
  cases hfound : a.registry.package? key.packageId with
  | none =>
      rw [hfound] at hsame
      have hnew := Catalog.find?_eq_none_iff.mp hfound
      have hnew' := Catalog.find?_eq_none_iff.mp hsame.symm
      calc a.registry.component? key
          = none := ha.component?_eq_none hnew key.componentId
        _ = b.registry.component? key := (hb.component?_eq_none hnew' key.componentId).symm
  | some p =>
      rw [hfound] at hsame
      obtain ⟨hmem, hid⟩ := Catalog.find?_eq_some_iff.mp hfound
      obtain ⟨hmem', -⟩ := Catalog.find?_eq_some_iff.mp hsame.symm
      obtain ⟨-, files, hread, hholds⟩ := ha.package p hmem
      obtain ⟨-, files', hread', hholds'⟩ := hb.package p hmem'
      -- the folder is read in one way only
      cases hread.symm.trans hread'
      rw [show key = ⟨p.id, key.componentId⟩ by rw [hid], hholds.component, hholds'.component]

end Assets

namespace Disk

variable {d : Disk} {folders folders' : List Path}

/-- A parsing comes to its end exactly when no folder is refused and all package identifiers are
different. -/
lemma exists_parse_iff : (∃ a, (d.parse folders).outcome = .ok a) ↔
    (∀ folder ∈ folders, ∀ problem, d.readPackage folder ≠ .refused problem) ∧
      (PackageFolder.packageIds (folders.map d.readPackage)).Nodup :=
  exists_parseInto_iff

/-- A parsing that comes to its end registers the packages in the order of their folders. -/
lemma keys_of_parse {a : Assets} (h : (d.parse folders).outcome = .ok a) :
    a.registry.packages.keys = PackageFolder.packageIds (folders.map d.readPackage) :=
  (gathers_of_parseInto h).keys

/-- Whether a parsing comes to its end does not depend on the order of the folders. -/
lemma exists_parse_perm (h : folders.Perm folders') :
    (∃ a, (d.parse folders).outcome = .ok a) ↔ ∃ b, (d.parse folders').outcome = .ok b := by
  have hids : (PackageFolder.packageIds (folders.map d.readPackage)).Perm
      (PackageFolder.packageIds (folders'.map d.readPackage)) :=
    ((h.map _).flatMap_right _).map _
  rw [exists_parse_iff, exists_parse_iff, hids.nodup_iff]
  simp only [h.mem_iff]

/-- **What a parsing has read does not depend on the order** of the folders, apart from the order in
which it is listed. -/
lemma sameUpToOrder_of_parse (h : folders.Perm folders') {a b : Assets}
    (ha : (d.parse folders).outcome = .ok a) (hb : (d.parse folders').outcome = .ok b) :
    a.SameUpToOrder b := by
  have hfolders := h.map d.readPackage
  have hgathers := gathers_of_parseInto ha
  have hgathers' := gathers_of_parseInto hb
  have hpackages : a.registry.packages.items.Perm b.registry.packages.items := by
    rw [hgathers.packages, hgathers'.packages]
    exact (hfolders.flatMap_right _).append_left _
  have hpackage := Catalog.perm_iff.mp hpackages
  refine ⟨⟨hpackage, (readFrom_of_parse ha).component?_eq (readFrom_of_parse hb) hpackage, ?_⟩,
    fun url => ?_⟩
  · rw [hgathers.warnings, hgathers'.warnings]
    exact (hfolders.flatMap_right _).append_left _
  · rw [Bool.eq_iff_iff, hgathers.requests, hgathers'.requests,
      (hfolders.flatMap_right PackageFolder.requests).mem_iff]

end Disk

end UiBinding
