/-
The report as an index: which components it lists, and how often.

The packages are reported with the entries of their manifests, and each entry is looked up by its
identifier.  Nothing keeps two entries of a manifest from having one identifier, and then the
component that has it is listed for each of them.  So what is counted in the report is counted with
the number of entries, where the registry counts every component once.

* `Registry.listings` is the number of entries that list a component, and `count_listedKeys` says
  that these are all places where the report looks it up;
* `sum_map_filterMap_component?`: what is added up over the report;
* `ReadFrom.one_le_listings`: no component that was read is missing from the report;
* `Component.Key.text_eq_text_iff`: when two keys are written alike;
* `report_indexes`: the report and the registry, compared.
-/
import Mathlib
import UiBinding.Proofs.Assets.Texts
import UiBinding.Proofs.Resolution.Annotation
import UiBinding.Report.Basic

namespace UiBinding

/-! ### Keys as they are written -/

namespace Component.Key

/-- Two keys that are one text, cut at an earlier slash for the first one. -/
def CutBefore (k l : Key) : Prop :=
  ∃ middle, l.packageId = k.packageId ++ "/" ++ middle ∧
    k.componentId = middle ++ "/" ++ l.componentId

/-- If the slash of the second key is found in a part behind the package identifier of the first,
then it is the slash of the first key or a later one. -/
lemma eq_or_cutBefore {k l : Key} {part : List Char}
    (hpackage : l.packageId.toList = k.packageId.toList ++ part)
    (hcomponent : '/' :: k.componentId.toList = part ++ '/' :: l.componentId.toList) :
    k = l ∨ k.CutBefore l := by
  cases part with
  | nil =>
      rw [List.append_nil, String.toList_inj] at hpackage
      rw [List.nil_append, List.cons_inj_right, String.toList_inj] at hcomponent
      exact Or.inl (Key.ext hpackage.symm hcomponent)
  | cons first middle =>
      obtain ⟨rfl, hrest⟩ := List.cons.inj hcomponent
      refine Or.inr ⟨String.ofList middle, ?_, ?_⟩
      · rw [← String.toList_inj, hpackage]
        simp
      · rw [← String.toList_inj, hrest]
        simp

/-- **Keys that are written alike**: they are the same, or one is cut at an earlier slash. -/
lemma text_eq_text_iff {k l : Key} :
    k.text = l.text ↔ k = l ∨ k.CutBefore l ∨ l.CutBefore k := by
  constructor
  · intro h
    have hlists : k.packageId.toList ++ '/' :: k.componentId.toList =
        l.packageId.toList ++ '/' :: l.componentId.toList := by
      simpa [text] using congrArg String.toList h
    rcases List.append_eq_append_iff.mp hlists with
      ⟨part, hpackage, hcomponent⟩ | ⟨part, hpackage, hcomponent⟩
    · exact (eq_or_cutBefore hpackage hcomponent).imp_right Or.inl
    · exact (eq_or_cutBefore hpackage hcomponent).imp Eq.symm Or.inr
  · rintro (rfl | ⟨middle, hpackage, hcomponent⟩ | ⟨middle, hpackage, hcomponent⟩)
    · rfl
    · simp [text, hpackage, hcomponent, String.append_assoc]
    · simp [text, hpackage, hcomponent, String.append_assoc]

end Component.Key

/-! ### Sums -/

/-- A sum in which one key counts is what is found under that key. -/
lemma Catalog.sum_map_ite {α κ : Type} {key : α → κ} [DecidableEq κ] (c : Catalog key) (k : κ)
    (f : α → ℕ) :
    (c.items.map fun a => if key a = k then f a else 0).sum = ((c.find? k).map f).getD 0 := by
  have hzero : ∀ others : List α, k ∉ others.map key →
      (others.map fun a => if key a = k then f a else 0).sum = 0 := by
    intro others hnot
    refine List.sum_eq_zero fun n hn => ?_
    obtain ⟨a, ha, rfl⟩ := List.mem_map.mp hn
    exact if_neg (ne_of_mem_of_not_mem (List.mem_map_of_mem ha) hnot)
  cases hfound : c.find? k with
  | none => exact hzero c.items (find?_eq_none_iff.mp hfound)
  | some a =>
      obtain ⟨hmem, rfl⟩ := find?_eq_some_iff.mp hfound
      obtain ⟨before, after, hitems, hbefore, hafter⟩ := exists_split_of_mem c.distinct hmem
      rw [hitems, List.map_append, List.map_cons, List.sum_append, List.sum_cons,
        hzero before hbefore, hzero after hafter, if_pos rfl]
      simp

/-- A sum does not change when its terms are multiplied by positive numbers exactly when no term is
multiplied by anything but one. -/
lemma sum_map_mul_eq_iff {α : Type} {l : List α} {n f : α → ℕ} (hn : ∀ a ∈ l, 1 ≤ n a) :
    (l.map fun a => n a * f a).sum = (l.map f).sum ↔ ∀ a ∈ l, f a = 0 ∨ n a = 1 := by
  induction l with
  | nil => simp
  | cons a rest ih =>
      obtain ⟨ha, hrest⟩ := List.forall_mem_cons.mp hn
      have hle : (rest.map f).sum ≤ (rest.map fun b => n b * f b).sum :=
        List.sum_le_sum fun b hb => Nat.le_mul_of_pos_left _ (hrest b hb)
      have hterm : f a ≤ n a * f a := Nat.le_mul_of_pos_left _ ha
      have hfirst : n a * f a = f a ↔ f a = 0 ∨ n a = 1 := by
        by_cases hzero : f a = 0
        · simp [hzero]
        · rw [mul_eq_right₀ hzero, or_iff_right hzero]
      rw [List.forall_mem_cons, ← ih hrest, ← hfirst, List.map_cons, List.map_cons, List.sum_cons,
        List.sum_cons]
      omega

/-! ### What is listed -/

/-- The keys under which the report looks up the entries of a package. -/
def Package.listedKeys (p : Package) : List Component.Key :=
  p.entries.items.map fun entry => ⟨p.id, entry.id⟩

lemma Package.count_listedKeys (p : Package) (key : Component.Key) :
    p.listedKeys.count key = if p.id = key.packageId then
      p.entries.items.countP fun entry => entry.id = key.componentId else 0 := by
  rw [List.count_eq_countP, listedKeys, List.countP_map]
  split
  · next hpackage =>
      refine List.countP_congr fun entry _ => ?_
      simp [Component.Key.ext_iff, hpackage]
  · next hpackage =>
      rw [List.countP_eq_zero]
      intro entry _
      simp [Component.Key.ext_iff, hpackage]

namespace Registry

variable (r : Registry)

/-- The keys under which the report looks up components. -/
def listedKeys : List Component.Key := r.packages.items.flatMap Package.listedKeys

/-- How many entries its package has for a component. -/
def listings (key : Component.Key) : ℕ :=
  ((r.package? key.packageId).map fun p =>
    p.entries.items.countP fun entry => entry.id = key.componentId).getD 0

/-- A component is looked up once for each entry that its package has for it. -/
lemma count_listedKeys (key : Component.Key) : r.listedKeys.count key = r.listings key := by
  have hpackages := r.packages.sum_map_ite key.packageId fun p =>
    p.entries.items.countP fun entry => entry.id = key.componentId
  rw [listedKeys, List.count_flatMap, listings, package?, ← hpackages]
  congr 2
  funext p
  exact p.count_listedKeys key

/-- What is added up over looked-up components is added up over the registered ones, each of them
counted as often as it is looked up. -/
lemma sum_map_filterMap_component? (keys : List Component.Key) (f : Component → ℕ) :
    ((keys.filterMap r.component?).map f).sum =
      (r.components.items.map fun c => keys.count c.key * f c).sum := by
  induction keys with
  | nil => simp
  | cons key rest ih =>
      have hfirst := r.components.sum_map_ite key f
      have hterm : ∀ c : Component, (key :: rest).count c.key * f c =
          rest.count c.key * f c + if c.key = key then f c else 0 := by
        intro c
        rw [List.count_cons, Nat.add_mul]
        by_cases hkey : c.key = key
        · simp [hkey]
        · simp [hkey, Ne.symm hkey]
      simp only [hterm]
      rw [List.sum_map_add, hfirst, ← ih, List.filterMap_cons]
      change _ = _ + ((r.component? key).map f).getD 0
      cases r.component? key with
      | none => rfl
      | some c => simp [Nat.add_comm]

/-- If every component is listed, then as many are listed as are registered exactly if each of them
is listed once. -/
lemma sum_listings_eq_size_iff {r : Registry}
    (h : ∀ c ∈ r.components.items, 1 ≤ r.listings c.key) :
    (r.components.items.map fun c => r.listings c.key).sum = r.components.size ↔
      ∀ c ∈ r.components.items, r.listings c.key = 1 := by
  have hsize : (r.components.items.map fun _ => 1).sum = r.components.size := by
    simp [Catalog.size]
  have hall := sum_map_mul_eq_iff (f := fun _ => 1) h
  simp only [Nat.mul_one, Nat.one_ne_zero, false_or] at hall
  rw [← hsize]
  exact hall

end Registry

/-- Every component that was read is listed. -/
lemma Assets.ReadFrom.one_le_listings {d : Disk} {folders : List Path} {a : Assets}
    (h : a.ReadFrom d folders) {c : Component} (hc : c ∈ a.registry.components.items) :
    1 ≤ a.registry.listings c.key := by
  obtain ⟨p, hp, entry, hentry, root, -, rfl⟩ := h.exists_reading hc
  rw [← Registry.count_listedKeys]
  refine List.count_pos_iff.mpr (List.mem_flatMap.mpr ⟨p, hp, ?_⟩)
  exact List.mem_map.mpr ⟨entry, hentry, rfl⟩

/-! ### The report -/

namespace Report

/-- The components that are listed, package by package. -/
def components (report : Report) : List Report.Component :=
  report.packages.flatMap Report.Package.components

/-- The listed members that are marked as dangling. -/
def danglingMembers (report : Report) : List Report.Member :=
  (report.components.flatMap Report.Component.members).filter (·.dangling)

section

variable (r : Registry)

/-- The components listed for a package are those looked up for its entries. -/
lemma components_package (p : UiBinding.Package) :
    (Package.of r p).components = (p.listedKeys.filterMap r.component?).map Component.of := by
  rw [UiBinding.Package.listedKeys, List.filterMap_map]
  rfl

/-- The components listed are those looked up for all entries. -/
lemma components_of (resolution : Resolution) (config : Config) :
    (Report.of resolution config).components = (resolution.registry.listedKeys.filterMap
      resolution.registry.component?).map Component.of := by
  rw [components, Report.of, List.flatMap_map, Registry.listedKeys, List.filterMap_flatMap,
    List.map_flatMap]
  simp only [components_package]

/-- The packages are reported in their order. -/
lemma ids_of (resolution : Resolution) (config : Config) :
    (Report.of resolution config).packages.map Package.id = resolution.registry.packages.keys := by
  rw [Report.of, List.map_map]
  rfl

/-- What is listed is registered, under the key that is reported. -/
lemma component?_of_listed {resolution : Resolution} {config : Config} {e : Report.Component}
    (he : e ∈ (Report.of resolution config).components) :
    (resolution.registry.component? e.key).map Component.of = some e := by
  rw [components_of] at he
  obtain ⟨c, hc, rfl⟩ := List.mem_map.mp he
  obtain ⟨key, -, hfound⟩ := List.mem_filterMap.mp hc
  obtain rfl := (Registry.component?_eq_some_iff.mp hfound).2
  exact congrArg (Option.map Component.of) hfound

/-- Two components that are listed have keys that are written alike only if they are the same, or if
one of the keys is cut at an earlier slash. -/
lemma text_key_eq_iff {resolution : Resolution} {config : Config} {e e' : Report.Component}
    (he : e ∈ (Report.of resolution config).components)
    (he' : e' ∈ (Report.of resolution config).components) :
    e.key.text = e'.key.text ↔ e = e' ∨ e.key.CutBefore e'.key ∨ e'.key.CutBefore e.key := by
  have hsame : e.key = e'.key ↔ e = e' := by
    refine ⟨fun hkey => ?_, congrArg _⟩
    have hfound := component?_of_listed he
    rw [hkey, component?_of_listed he', Option.some_inj] at hfound
    exact hfound.symm
  rw [Component.Key.text_eq_text_iff, hsame]

variable {r}

/-- A registered component is looked up under its own key, and under no other. -/
lemma map_of_component?_eq_iff {c : UiBinding.Component} (hc : c ∈ r.components.items)
    {key : UiBinding.Component.Key} :
    (r.component? key).map Component.of = some (Component.of c) ↔ key = c.key := by
  constructor
  · intro h
    obtain ⟨e, hfound, hsame⟩ := Option.map_eq_some_iff.mp h
    rw [← (Registry.component?_eq_some_iff.mp hfound).2]
    exact congrArg Component.key hsame
  · rintro rfl
    rw [Registry.component?_eq_some_iff.mpr ⟨hc, rfl⟩, Option.map_some]

/-- A registered component is listed for its own package, once for each entry, and for no other
package. -/
lemma count_components_package {p : UiBinding.Package} (hp : p ∈ r.packages.items)
    {c : UiBinding.Component} (hc : c ∈ r.components.items) :
    (Package.of r p).components.count (Component.of c) =
      if p.id = c.packageId then r.listings c.key else 0 := by
  have hkeys : (Package.of r p).components.count (Component.of c) = p.listedKeys.count c.key := by
    rw [components_package, List.count_eq_countP, List.countP_map, List.countP_filterMap,
      List.count_eq_countP]
    refine List.countP_congr fun key _ => ?_
    rw [beq_iff_eq, ← map_of_component?_eq_iff hc]
    cases r.component? key <;> simp
  rw [hkeys, p.count_listedKeys]
  by_cases hpackage : p.id = c.packageId
  · have hfound : r.package? c.packageId = some p := Catalog.find?_eq_some_iff.mpr ⟨hp, hpackage⟩
    rw [Registry.listings, show c.key.packageId = c.packageId from rfl, hfound]
    rfl
  · exact (if_neg hpackage).trans (if_neg hpackage).symm

/-- The listed members of a component that are marked as dangling are its dangling references, if
no member that is left out has a type. -/
lemma countP_dangling {c : UiBinding.Component}
    (hidden : ∀ m ∈ c.members, m.exposed = false → m.typing? = none) :
    (Component.of c).members.countP (·.dangling) = (r.danglingReferencesOf c).length := by
  have hmark : ∀ typing : UiBinding.Member.Typing,
      typing.typeName?.isNone = typing.missing?.isSome := by
    intro typing
    cases typing <;> rfl
  have hmembers : (Component.of c).members = c.exposedMembers.map Member.of := rfl
  rw [hmembers, UiBinding.Component.exposedMembers, List.countP_map, List.countP_filter,
    Registry.danglingReferencesOf, List.length_filterMap_eq_countP]
  refine List.countP_congr fun m hm => ?_
  cases htyping : m.typing? with
  | none => simp [Member.of, htyping]
  | some typing =>
      have hexposed : m.exposed = true := by
        by_contra hnot
        rw [hidden m hm (Bool.eq_false_of_not_eq_true hnot)] at htyping
        cases htyping
      simp [Member.of, htyping, hexposed, hmark]

end

end Report

namespace Assets

variable (a : Assets) (config : Config)

/-- At the end of a resolution, members that do not become fields have no type. -/
lemma typing?_of_hidden {c : Component}
    (hc : c ∈ (a.resolve config).registry.components.items) :
    ∀ m ∈ c.members, m.exposed = false → m.typing? = none := by
  rw [registry_resolve_eq] at hc
  obtain ⟨d, -, rfl⟩ := List.mem_map.mp hc
  intro m hm hexposed
  rw [members_settle] at hm
  obtain ⟨n, -, rfl⟩ := List.mem_map.mp hm
  rw [Registry.resolveMember] at hexposed ⊢
  exact if_neg (Bool.not_eq_true _ ▸ hexposed)

/-- The number of components in the report: each is counted with its entries. -/
lemma length_components_report :
    (Report.of (a.resolve config) config).components.length =
      ((a.resolve config).registry.components.items.map fun c =>
        (a.resolve config).registry.listings c.key).sum := by
  have hsum := (a.resolve config).registry.sum_map_filterMap_component?
    (a.resolve config).registry.listedKeys fun _ => 1
  rw [Report.components_of, List.length_map]
  simpa [Registry.count_listedKeys] using hsum

/-- The number of dangling members in the report: those of a component are counted once for each of
its entries. -/
lemma length_danglingMembers_report :
    (Report.of (a.resolve config) config).danglingMembers.length =
      ((a.resolve config).registry.components.items.map fun c =>
        (a.resolve config).registry.listings c.key *
          ((a.resolve config).registry.danglingReferencesOf c).length).sum := by
  have hsum := (a.resolve config).registry.sum_map_filterMap_component?
    (a.resolve config).registry.listedKeys
    fun c => (Report.Component.of c).members.countP (·.dangling)
  simp only [Registry.count_listedKeys] at hsum
  rw [Report.danglingMembers, ← List.countP_eq_length_filter, List.countP_flatMap,
    Report.components_of, List.map_map]
  refine hsum.trans (congrArg List.sum (List.map_congr_left fun c hc => ?_))
  rw [Report.countP_dangling (a.typing?_of_hidden config hc)]

/-- The number of dangling references: those of a component are counted once. -/
lemma length_dangling_resolve :
    (a.resolve config).dangling.length = ((a.resolve config).registry.components.items.map fun c =>
      ((a.resolve config).registry.danglingReferencesOf c).length).sum := by
  rw [dangling_resolve, Registry.danglingReferences, List.length_flatMap]

/-- Every component of a parsing is listed after its resolution. -/
lemma one_le_listings_resolve {d : Disk} {folders : List Path} {a : Assets}
    (hparse : (d.parse folders).outcome = .ok a) (config : Config) :
    ∀ c ∈ (a.resolve config).registry.components.items,
      1 ≤ (a.resolve config).registry.listings c.key := by
  intro c hc
  have hlistings : (a.resolve config).registry.listings = a.registry.listings := by
    rw [registry_resolve_eq]
    rfl
  rw [registry_resolve_eq] at hc
  obtain ⟨e, he, rfl⟩ := List.mem_map.mp hc
  rw [hlistings, key_settle]
  exact (Disk.readFrom_of_parse hparse).one_le_listings he

end Assets

/-- **The report as an index**.  Packages are reported in their order, and whatever is listed is a
registered component.  A registered component is listed only for its own package, and there as often
as the package has entries for it, which is at least once.  So as many components are listed as are
registered exactly if each of them has one entry, and as many dangling members as there are dangling
references exactly if each component with such a reference has one entry.  The texts of two listed
keys are the same only if the keys are, or if one of them is the other, cut at an earlier slash. -/
theorem Disk.report_indexes {d : Disk} {folders : List Path} {a : Assets}
    (hparse : (d.parse folders).outcome = .ok a) (config : Config) :
    let resolution := a.resolve config
    let registry := resolution.registry
    let report := Report.of resolution config
    report.packages.map Report.Package.id = registry.packages.keys ∧
    (∀ e ∈ report.components, (registry.component? e.key).map Report.Component.of = some e) ∧
    (∀ c ∈ registry.components.items, 1 ≤ registry.listings c.key ∧
      ∀ row ∈ report.packages, row.components.count (.of c) =
        if row.id = c.packageId then registry.listings c.key else 0) ∧
    (∀ e ∈ report.components, ∀ e' ∈ report.components, e.key.text = e'.key.text ↔
      e = e' ∨ e.key.CutBefore e'.key ∨ e'.key.CutBefore e.key) ∧
    report.components.length =
      (registry.components.items.map fun c => registry.listings c.key).sum ∧
    (report.components.length = registry.components.size ↔
      ∀ c ∈ registry.components.items, registry.listings c.key = 1) ∧
    report.danglingMembers.length = (registry.components.items.map fun c =>
      registry.listings c.key * (registry.danglingReferencesOf c).length).sum ∧
    (report.danglingMembers.length = resolution.dangling.length ↔
      ∀ c ∈ registry.components.items,
        registry.danglingReferencesOf c = [] ∨ registry.listings c.key = 1) := by
  intro resolution registry report
  have hlisted := Assets.one_le_listings_resolve hparse config
  have hlength := a.length_components_report config
  have hdangling := a.length_danglingMembers_report config
  refine ⟨Report.ids_of resolution config, fun e he => Report.component?_of_listed he,
    fun c hc => ⟨hlisted c hc, fun row hrow => ?_⟩, fun e he e' he' => Report.text_key_eq_iff he he',
    hlength, ?_, hdangling, ?_⟩
  · obtain ⟨p, hp, rfl⟩ := List.mem_map.mp hrow
    exact Report.count_components_package hp hc
  · rw [hlength]
    exact Registry.sum_listings_eq_size_iff hlisted
  · rw [hdangling, Assets.length_dangling_resolve]
    refine (sum_map_mul_eq_iff hlisted).trans ?_
    simp only [List.length_eq_zero_iff]
    rfl

/-! ### Entries with one identifier -/

namespace Disk

/-- The files of two packages.  Two entries of the first one have one identifier, and the identifier
of the second one goes on where that of the first ends. -/
def ambiguousTexts : List (String × String) :=
  [("A/package.xml", "<package id='p'><resources><component id='c/d' name='M'/>" ++
      "<component id='c/d' name='N'/></resources><publish/></package>"),
    ("A/M", "<component/>"),
    ("A/N", "<component><displayList><component name='lost' src='gone'/></displayList></component>"),
    ("B/package.xml", "<package id='p/c'><resources><component id='d' name='M'/></resources>" ++
      "<publish/></package>"),
    ("B/M", "<component/>")]

/-- A disk with these files. -/
def ambiguous : Disk := ofTexts ["A", "B"] ambiguousTexts

/-- What is read from the disk, and what is reported of it. -/
lemma parse_ambiguous :
    ∃ a, (ambiguous.parse [⟨"A"⟩, ⟨"B"⟩]).outcome = .ok a ∧
      (a.resolve {}).registry.components.items.map
        (fun c => (c.key, (a.resolve {}).registry.listings c.key)) =
          [(⟨"p", "c/d"⟩, 2), (⟨"p/c", "d"⟩, 1)] ∧
      (Report.of (a.resolve {}) {}).packages.map
        (fun row => (row.id, row.components.map Report.Component.key)) =
          [("p", [⟨"p", "c/d"⟩, ⟨"p", "c/d"⟩]), ("p/c", [⟨"p/c", "d"⟩])] ∧
      (Report.of (a.resolve {}) {}).danglingMembers.length = 2 ∧
      (a.resolve {}).dangling.length = 1 := by
  have hreadable : Readable ["A", "B"] ambiguousTexts := by decide +kernel
  have hfacts : (Assets.empty.addAll ([⟨"A"⟩, ⟨"B"⟩].map
      (ambiguous.readWith (treeIn ambiguousTexts)))).toOption.map (fun a =>
        ((a.resolve {}).registry.components.items.map
          (fun c => (c.key, (a.resolve {}).registry.listings c.key)),
        (Report.of (a.resolve {}) {}).packages.map
          (fun row => (row.id, row.components.map Report.Component.key)),
        (Report.of (a.resolve {}) {}).danglingMembers.length,
        (a.resolve {}).dangling.length)) =
      some ([(⟨"p", "c/d"⟩, 2), (⟨"p/c", "d"⟩, 1)],
        [("p", [⟨"p", "c/d"⟩, ⟨"p", "c/d"⟩]), ("p/c", [⟨"p/c", "d"⟩])], 2, 1) := by
    decide +kernel
  obtain ⟨a, ha, hfacts⟩ := hreadable.exists_parse hfacts
  simp only [Prod.mk.injEq] at hfacts
  exact ⟨a, ha, hfacts⟩

/-- Two entries with one identifier are reported as two components, although one is registered, and
the dangling reference in it is reported twice.  Its key is written like that of another component,
whose package identifier holds a slash. -/
theorem report_repeats :
    ∃ a, (ambiguous.parse [⟨"A"⟩, ⟨"B"⟩]).outcome = .ok a ∧
      let resolution := a.resolve {}
      let report := Report.of resolution {}
      resolution.registry.components.keys = [⟨"p", "c/d"⟩, ⟨"p/c", "d"⟩] ∧
      report.packages.map (fun row => (row.id, row.components.map Report.Component.key)) =
        [("p", [⟨"p", "c/d"⟩, ⟨"p", "c/d"⟩]), ("p/c", [⟨"p/c", "d"⟩])] ∧
      (Component.Key.mk "p" "c/d").text = (Component.Key.mk "p/c" "d").text ∧
      report.components.length ≠ resolution.registry.components.size ∧
      report.danglingMembers.length ≠ resolution.dangling.length := by
  obtain ⟨a, ha, hregistered, hrows, hmembers, hdangling⟩ := parse_ambiguous
  have hkeys : (a.resolve {}).registry.components.keys = [⟨"p", "c/d"⟩, ⟨"p/c", "d"⟩] := by
    simpa [Catalog.keys, Function.comp_def] using congrArg (List.map Prod.fst) hregistered
  have hsize : (a.resolve {}).registry.components.size = 2 := by
    simpa [Catalog.size] using congrArg List.length hregistered
  have hlength : (Report.of (a.resolve {}) {}).components.length = 3 := by
    rw [Assets.length_components_report]
    simpa [Function.comp_def] using congrArg (fun l => (l.map Prod.snd).sum) hregistered
  refine ⟨a, ha, hkeys, hrows, by decide +kernel, ?_, ?_⟩
  · rw [hlength, hsize]
    decide
  · rw [hmembers, hdangling]
    decide

/-- Of the two components that are registered, one is listed twice and the other once, so three
components are listed. -/
theorem report_indexes_ambiguous :
    ∃ a, (ambiguous.parse [⟨"A"⟩, ⟨"B"⟩]).outcome = .ok a ∧
      let registry := (a.resolve {}).registry
      let report := Report.of (a.resolve {}) {}
      registry.components.items.map (fun c => (c.key, registry.listings c.key)) =
        [(⟨"p", "c/d"⟩, 2), (⟨"p/c", "d"⟩, 1)] ∧
      report.packages.map Report.Package.id = registry.packages.keys ∧
      (∀ c ∈ registry.components.items, ∀ row ∈ report.packages, row.components.count (.of c) =
        if row.id = c.packageId then registry.listings c.key else 0) ∧
      report.components.length = 3 ∧
      ¬ ∀ c ∈ registry.components.items, registry.listings c.key = 1 := by
  obtain ⟨a, ha, hregistered, -⟩ := parse_ambiguous
  obtain ⟨hids, -, hcounts, -, hlength, hone, -⟩ := report_indexes ha {}
  have hsum := congrArg (fun l => (l.map Prod.snd).sum) hregistered
  have hsize := congrArg List.length hregistered
  simp only [List.map_map, Function.comp_def, List.length_map] at hsum hsize
  have hthree : (Report.of (a.resolve {}) {}).components.length = 3 := hlength.trans hsum
  refine ⟨a, ha, hregistered, hids, fun c hc => (hcounts c hc).2, hthree, fun hall => ?_⟩
  have heq := hone.mpr hall
  rw [hthree, Catalog.size, hsize] at heq
  cases heq

end Disk

end UiBinding
