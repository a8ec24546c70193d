/-
Idempotence: a resolution made once more on its own result.

The second resolution begins with all notes made.  The export pass decides by what was authored and
by the marks that the first walk left, so it comes to the decisions that stand; the types are up to
date already; and the walk sees what the first walk saw, although more types now show class names.

* `Component.decideExport_eq_self` and `decideExport_settle`: nothing is decided differently;
* `registry_typePass_again` and `walk_registry_resolve`: so the second walk is made in the registry
  at the end of the first resolution, and finds the same (`walk_again`);
* `Exports.SameGroups`: the same groups with the same components, in whatever order;
* `resolve_again`: the second resolution finds out nothing new.
-/
import UiBinding.Proofs.Resolution.Links
import UiBinding.Proofs.Resolution.Records

namespace UiBinding

/-! ### Groups without their order -/

/-- Two exports have groups for the same packages, with the same components in each; the order in
which they were entered does not count. -/
def Exports.SameGroups (e f : Exports) : Prop :=
  ∀ packageId, Option.Rel
    (fun g h => ∀ id, g.componentIds.contains id = h.componentIds.contains id)
    (e.groups.find? packageId) (f.groups.find? packageId)

namespace Exports

/-- Where no group is empty, a group is there exactly if some component of the package is
contained. -/
lemma Filled.isSome_find?_iff {e : Exports} (h : e.Filled) {packageId : String} :
    (e.groups.find? packageId).isSome = true ↔ ∃ id, e.contains ⟨packageId, id⟩ = true := by
  rw [Option.isSome_iff_exists]
  constructor
  · rintro ⟨g, hg⟩
    obtain ⟨hmem, rfl⟩ := Catalog.find?_eq_some_iff.mp hg
    obtain ⟨key, hkey⟩ := List.exists_mem_of_ne_nil _ (h g hmem)
    obtain ⟨id, hid, -⟩ := List.mem_map.mp hkey
    refine ⟨id, contains_iff_mem_keys.mpr ?_⟩
    exact List.mem_flatMap.mpr ⟨g, hmem, List.mem_map_of_mem hid⟩
  · rintro ⟨id, hid⟩
    obtain ⟨g, hg, -⟩ := (Option.any_eq_true _ _).mp hid
    exact ⟨g, hg⟩

/-- Exports without empty groups are the same up to order if they contain the same components. -/
lemma Filled.sameGroups {e f : Exports} (he : e.Filled) (hf : f.Filled)
    (h : ∀ key, e.contains key = f.contains key) : e.SameGroups f := by
  intro packageId
  have hgroup : (e.groups.find? packageId).isSome = (f.groups.find? packageId).isSome := by
    rw [Bool.eq_iff_iff, he.isSome_find?_iff, hf.isSome_find?_iff]
    simp only [h]
  have hids := fun id => h ⟨packageId, id⟩
  simp only [contains] at hids
  cases hfound : e.groups.find? packageId with
  | none =>
      rw [hfound, Option.isSome_none, eq_comm, Option.isSome_eq_false_iff] at hgroup
      rw [Option.isNone_iff_eq_none.mp hgroup]
      exact .none
  | some g =>
      rw [hfound, Option.isSome_some, eq_comm, Option.isSome_iff_exists] at hgroup
      obtain ⟨g', hfound'⟩ := hgroup
      rw [hfound, hfound'] at hids
      rw [hfound']
      exact .some hids

end Exports

/-! ### Nothing is decided differently -/

namespace Component

variable {config : Config} {c : Component}

/-- The export pass leaves a component as it is if the decisions noted on it are those that the pass
comes to. -/
lemma decideExport_eq_self {requests : ExportRequests}
    (hmembers : ∀ m ∈ c.members,
      m.exposed = isExposedMember config.ignoreDefaultNames m.name m.kind)
    (hcontrollers : ∀ k ∈ c.controllers,
      k.exposed = isExposedController config.ignoreDefaultNames k.name)
    (hexported : c.exported = (c.declaredExported || requests.contains c.url || c.reachable))
    (hname : c.WellMarked config) : c.decideExport requests config = c := by
  have hmembers : (c.members.map fun m =>
      { m with exposed := isExposedMember config.ignoreDefaultNames m.name m.kind }) =
        c.members := by
    refine (List.map_congr_left fun m hm => ?_).trans (List.map_id _)
    rw [← hmembers m hm]
    rfl
  have hcontrollers : (c.controllers.map fun k =>
      { k with exposed := isExposedController config.ignoreDefaultNames k.name }) =
        c.controllers := by
    refine (List.map_congr_left fun k hk => ?_).trans (List.map_id _)
    rw [← hcontrollers k hk]
    rfl
  rw [WellMarked] at hname
  simp only [decideExport, expose, hmembers, hcontrollers, ← hexported, ← hname]

/-- Noting on an exported component that a root panel leads to it, where that is noted already,
changes nothing. -/
lemma WellMarked.markReachable_markExported (h : c.WellMarked config)
    (hexported : c.exported = true) (hreachable : c.reachable = true) :
    c.markReachable.markExported config = c := by
  rw [← h.markReachable_eq hexported, markReachable, ← hreachable]

end Component

namespace Assets

variable (a : Assets) (config : Config)

/-- On a settled component the export pass comes to the decisions that are noted on it. -/
lemma decideExport_settle {c : Component} (hname : (a.settle config c).WellMarked config) :
    (a.settle config c).decideExport a.requests config = a.settle config c := by
  refine Component.decideExport_eq_self ?_ ?_ ?_ hname
  · intro m hm
    rw [members_settle] at hm
    obtain ⟨n, -, rfl⟩ := List.mem_map.mp hm
    simp only [Registry.resolveMember, Member.name, Member.kind]
  · intro k hk
    rw [controllers_settle] at hk
    obtain ⟨l, -, rfl⟩ := List.mem_map.mp hk
    simp only [Controller.name]
  · obtain ⟨hexported, hreachable⟩ := a.marks_settle config c
    have hdeclared : (a.settle config c).declaredExported = c.declaredExported := by
      rw [settle_eq]
    rw [Bool.eq_iff_iff, Bool.or_eq_true, Bool.or_eq_true, hexported, hreachable, hdeclared,
      Component.url, key_settle]
    exact (or_left_comm.trans (or_congr_right or_assoc)).symm

/-! ### The second resolution -/

/-- What a resolution has left, to be resolved with the same requests. -/
def again : Assets := ⟨(a.resolve config).registry, a.requests⟩

/-- The second walk begins in the registry at the end of the first resolution. -/
lemma registry_typePass_again :
    ((a.again config).typePass config).registry = (a.resolve config).registry := by
  have hdecided : ((a.again config).exportPass config).registry = (a.resolve config).registry := by
    refine Registry.mapComponents_eq_self fun c hc => ?_
    have hname := a.wellMarked_resolve config c hc
    rw [again, registry_resolve_eq] at hc
    obtain ⟨d, -, rfl⟩ := List.mem_map.mp hc
    exact a.decideExport_settle config hname
  have htyped : ((a.again config).typePass config).registry =
      ((a.again config).exportPass config).registry.resolveTypes := rfl
  rw [htyped, hdecided, resolveTypes_resolve]

/-- The walk sees of a settled component what it saw when it was made. -/
lemma visible_settle (c : Component) :
    (a.settle config c).visible = (a.prepare config c).visible := by
  rw [settle, Registry.visible_resolveComponent]
  rw [joinWalk]
  split <;> rfl

/-- A walk over the registry at the end finds what the walk of the resolution found. -/
lemma walk_registry_resolve : (a.resolve config).registry.walk = a.walk config := by
  refine Registry.walk_eq_of_visible (a.resolveTypes_resolve config)
    (Registry.resolveTypes_resolveTypes _) ?_ ?_
  · rw [registry_resolve_eq, registry_typePass_eq, Registry.packages_mapComponents,
      Registry.packages_mapComponents]
  · rw [registry_resolve_eq, registry_typePass_eq, Registry.items_mapComponents,
      Registry.items_mapComponents, List.map_map, List.map_map]
    exact List.map_congr_left fun c _ => a.visible_settle config c

/-- **The second walk** finds what the first one found. -/
lemma walk_again : (a.again config).walk config = a.walk config := by
  rw [walk, registry_typePass_again, walk_registry_resolve]

/-- The second resolution leaves the registry as the first one left it. -/
lemma registry_resolve_again :
    ((a.again config).resolve config).registry = (a.resolve config).registry := by
  have hreached : ((a.again config).reachPass config).registry = (a.resolve config).registry := by
    rw [registry_reachPass, registry_typePass_again]
    refine Registry.mapComponents_eq_self fun c hc => ?_
    rw [joinWalk, walk_again]
    split
    · next hkey =>
        obtain ⟨d, -, hreachable, hexported⟩ := a.marks_resolve config hc
        exact (a.wellMarked_resolve config c hc).markReachable_markExported
          (hexported.mpr (Or.inl hkey)) (hreachable.mpr (Or.inl hkey))
    · rfl
  rw [registry_resolve, hreached, resolveTypes_resolve]

/-- **Resolution is idempotent**: made once more on its result, with the same requests, it leaves
every package and every component as it is, walks the same way, reports the same references, and
groups the same components. -/
theorem resolve_again :
    ((a.again config).resolve config).registry = (a.resolve config).registry ∧
    ((a.again config).resolve config).walk = (a.resolve config).walk ∧
    ((a.again config).resolve config).dangling = (a.resolve config).dangling ∧
    ((a.again config).resolve config).exports.SameGroups (a.resolve config).exports := by
  have hregistry := a.registry_resolve_again config
  refine ⟨hregistry, ?_, ?_, ?_⟩
  · rw [walk_resolve, walk_resolve, walk_again]
  · rw [dangling_resolve, dangling_resolve, hregistry]
  · refine (filled_exports_resolve _ config).sameGroups (filled_exports_resolve _ config) ?_
    intro key
    rw [Bool.eq_iff_iff, Exports.contains_iff_mem_keys, Exports.contains_iff_mem_keys,
      mem_keys_exports_resolve_iff, mem_keys_exports_resolve_iff, hregistry]

end Assets

end UiBinding
