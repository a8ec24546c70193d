/-
The whole resolution in one line: decide the exports, type, export what root panels lead to, type.

The second type pass is left out when the walk adds no export.  It would change nothing then, so
the registry at the end is typed in either case.

* `contains_exportPass_iff` and `wellMarked_exportPass`: after the export pass the exported
  components are grouped, and named by their files;
* `registry_reachPass`: what the walk reached is reachable and exported afterwards;
* `registry_resolve` and `dangling_resolve`: the registry at the end is typed, and the dangling
  references are its own.
-/
import UiBinding.Proofs.Resolution.Passes

namespace UiBinding

/-! ### What is exported is named -/

/-- A component has a class name exactly when it is exported, and then the one of its file. -/
def Component.WellMarked (config : Config) (c : Component) : Prop :=
  c.className? = if c.exported then some (config.className c.stem) else none

/-- An exported component that becomes reachable is as if it were exported anew. -/
lemma Component.WellMarked.markReachable_eq {config : Config} {c : Component}
    (h : c.WellMarked config) (hexported : c.exported = true) :
    c.markReachable = c.markReachable.markExported config := by
  have hclass : c.className? = some (config.className c.stem) := by
    rw [h, hexported, if_pos rfl]
  simp only [markReachable, markExported, hexported, hclass]
  rfl

/-- Whether a key is contained after entering keys one after the other. -/
lemma Exports.contains_insertAll_iff {e : Exports} {keys : List Component.Key}
    {key : Component.Key} :
    (e.insertAll keys).contains key = true ↔ key ∈ keys ∨ e.contains key = true := by
  induction keys generalizing e with
  | nil => simp [insertAll]
  | cons k keys ih =>
      rw [insertAll, List.foldl_cons, ← insertAll, ih, contains_insert, Bool.or_eq_true,
        decide_eq_true_eq, List.mem_cons]
      tauto

namespace Assets

variable (a : Assets) (config : Config)

/-- After the export pass a key is exported exactly when an exported component has it. -/
lemma contains_exportPass_iff {key : Component.Key} :
    (a.exportPass config).exports.contains key = true ↔
      ∃ c ∈ (a.exportPass config).registry.components.items, c.key = key ∧ c.exported = true := by
  have hempty : Exports.empty.contains key = false := rfl
  rw [exportPass, Registry.markExports, Exports.contains_insertAll_iff, hempty]
  simp only [List.mem_map, List.mem_filter, Bool.false_eq_true, or_false]
  constructor
  · rintro ⟨c, ⟨hc, hexported⟩, hkey⟩
    exact ⟨c, hc, hkey, hexported⟩
  · rintro ⟨c, hc, hkey, hexported⟩
    exact ⟨c, ⟨hc, hexported⟩, hkey⟩

/-- The export pass names exactly what it exports. -/
lemma wellMarked_exportPass :
    ∀ c ∈ (a.exportPass config).registry.components.items, c.WellMarked config := by
  intro c hc
  obtain ⟨d, -, rfl⟩ := List.mem_map.mp hc
  rfl

/-- The exports, when the walk begins, are those of the typed registry. -/
lemma contains_typePass_iff {c : Component}
    (hc : c ∈ (a.typePass config).registry.components.items) :
    (a.typePass config).exports.contains c.key = true ↔ c.exported = true := by
  obtain ⟨d, hd, rfl⟩ := List.mem_map.mp hc
  refine (a.contains_exportPass_iff config).trans ⟨?_, fun h => ⟨d, hd, rfl, h⟩⟩
  rintro ⟨e, he, hkey, hexported⟩
  -- keys are distinct, so the exported component with the key is this one
  have hfound : (a.exportPass config).registry.component? d.key = some e :=
    Registry.component?_eq_some_iff.mpr ⟨he, hkey⟩
  rw [Registry.component?_eq_some_iff.mpr ⟨hd, rfl⟩] at hfound
  cases hfound
  exact hexported

/-- The type pass leaves the names of the exported components alone. -/
lemma wellMarked_typePass :
    ∀ c ∈ (a.typePass config).registry.components.items, c.WellMarked config := by
  intro c hc
  obtain ⟨d, hd, rfl⟩ := List.mem_map.mp hc
  exact a.wellMarked_exportPass config d hd

/-- What the walk does to a component of the typed registry: if it was reached, it is noted and
exported. -/
def joinWalk (c : Component) : Component :=
  if c.key ∈ (a.walk config).keys then c.markReachable.markExported config else c

lemma key_joinWalk (c : Component) : (a.joinWalk config c).key = c.key := by
  rw [joinWalk]
  split <;> rfl

/-- Exactly what the walk reached is noted and exported. -/
lemma registry_reachPass :
    (a.reachPass config).registry =
      (a.typePass config).registry.mapComponents (a.joinWalk config) (a.key_joinWalk config) := by
  rw [reachPass, ExportPass.registry_reachAll]
  refine Registry.mapComponents_congr fun c hc => ?_
  rw [ExportPass.joinListed, joinWalk]
  split
  · rw [Component.joinExports]
    split
    · next hcontains =>
        have hexported := (a.contains_typePass_iff config hc).mp hcontains
        exact (a.wellMarked_typePass config c hc).markReachable_eq hexported
    · rfl
  · rfl

/-- What the walk reached is named as well. -/
lemma wellMarked_reachPass :
    ∀ c ∈ (a.reachPass config).registry.components.items, c.WellMarked config := by
  intro c hc
  rw [registry_reachPass] at hc
  obtain ⟨d, hd, rfl⟩ := List.mem_map.mp hc
  rw [joinWalk]
  split
  · rfl
  · exact a.wellMarked_typePass config d hd

/-! ### The registry at the end is typed -/

/-- If the walk adds no export, it only notes what it reached. -/
lemma registry_reachPass_of_added_eq_zero (h : (a.reachPass config).added = 0) :
    (a.reachPass config).registry = (a.typePass config).registry.mapComponents
      (fun c => if c.key ∈ (a.walk config).keys then c.markReachable else c)
      (fun c => by split <;> rfl) := by
  rw [registry_reachPass]
  refine Registry.mapComponents_congr fun c hc => ?_
  rw [joinWalk]
  split
  · next hkey =>
      have hsome : ((a.typePass config).registry.component? c.key).isSome = true := by
        rw [Registry.component?_eq_some_iff.mpr ⟨hc, rfl⟩]
        rfl
      have hcontains := ExportPass.contains_of_added_eq config h c.key hkey hsome
      have hexported := (a.contains_typePass_iff config hc).mp hcontains
      exact ((a.wellMarked_typePass config c hc).markReachable_eq hexported).symm
  · rfl

/-- If the walk adds no export, a second type pass would change nothing. -/
lemma resolveTypes_reachPass_of_added_eq_zero (h : (a.reachPass config).added = 0) :
    (a.reachPass config).registry.resolveTypes = (a.reachPass config).registry := by
  rw [a.registry_reachPass_of_added_eq_zero config h]
  -- noting what was reached touches neither kinds nor class names, nor the members
  have htyping : ((a.typePass config).registry.mapComponents
      (fun c => if c.key ∈ (a.walk config).keys then c.markReachable else c)
      (fun c => by split <;> rfl)).referenceTyping =
        (a.typePass config).registry.referenceTyping :=
    Registry.referenceTyping_mapComponents fun c _ => by split <;> exact ⟨rfl, rfl⟩
  have htyped := Registry.eq_of_mapComponents_eq_self
    ((a.exportPass config).registry.resolveTypes_resolveTypes)
  refine Registry.mapComponents_eq_self fun c hc => ?_
  rw [Registry.resolveComponent_congr htyping]
  obtain ⟨d, hd, rfl⟩ := List.mem_map.mp hc
  have hd := htyped d hd
  split
  · exact congrArg Component.markReachable hd
  · exact hd

/-- **The registry at the end** is typed after the exports have been decided for good, whether or
not the second type pass was left out. -/
lemma registry_resolve :
    (a.resolve config).registry = (a.reachPass config).registry.resolveTypes := by
  rw [resolve]
  dsimp only
  split
  · next hadded => exact (a.resolveTypes_reachPass_of_added_eq_zero config hadded).symm
  · rfl

/-- The dangling references that are reported are those of the registry at the end. -/
lemma dangling_resolve :
    (a.resolve config).dangling = (a.resolve config).registry.danglingReferences := by
  rw [resolve]
  dsimp only
  split
  · next hadded =>
      rw [a.registry_reachPass_of_added_eq_zero config hadded]
      exact (Registry.danglingReferences_mapComponents fun c => by split <;> exact ⟨rfl, rfl⟩).symm
  · rfl

/-- At the end a component has a class name exactly when it is exported. -/
lemma wellMarked_resolve :
    ∀ c ∈ (a.resolve config).registry.components.items, c.WellMarked config := by
  intro c hc
  rw [registry_resolve] at hc
  obtain ⟨d, hd, rfl⟩ := List.mem_map.mp hc
  exact a.wellMarked_reachPass config d hd

end Assets

end UiBinding
