/-
Stability of types: after a resolution every reference has the type that its target has now.

A registry is typed if the type pass changes nothing in it.  In a typed registry the type of a
member can be read off the registry alone, whatever the passes before it did.

* `typing?_of_typed`: a member of a typed registry has a type exactly when it becomes a field;
* `typing?_eq_component_iff`: a reference is typed by the component it leads to;
* `resolve_types_current`: the registry at the end of a resolution is typed, so no reference
  keeps a class name from before the walk, and the dangling references are those that the type
  pass would report again.
-/
import UiBinding.Proofs.Resolution.Pipeline

namespace UiBinding

namespace Registry

/-- In a typed registry a member has a type exactly when it becomes a field. -/
lemma typing?_of_typed {r : Registry} (h : r.resolveTypes = r) {c : Component}
    (hc : c ∈ r.components.items) {m : Member} (hm : m ∈ c.members) :
    m.typing? = if m.exposed then r.typing? c.packageId m else none := by
  have hcomponent : r.resolveComponent c = c := eq_of_mapComponents_eq_self h c hc
  have hmembers : c.members.map (r.resolveMember c.packageId) = c.members.map id := by
    rw [List.map_id]
    exact congrArg Component.members hcomponent
  have hmember : r.resolveMember c.packageId m = m := List.map_inj_left.mp hmembers m hm
  exact (congrArg Member.typing? hmember).symm

/-- A member is typed by a component exactly when it refers to that component and the component is
registered. -/
lemma typing?_eq_component_iff {r : Registry} {owner : String} {m : Member}
    {target : Component.Key} {kind : Component.Kind} {typeName : String} :
    r.typing? owner m = some (.component target kind typeName) ↔
      m.target? owner = some target ∧ ∃ t, r.target? target = some t ∧
        kind = t.kind ∧ typeName = t.className?.getD t.kind.baseType := by
  rw [typing?]
  cases hbase : m.kind.baseType? with
  | some baseType =>
      simp [target?_of_baseType? hbase]
  | none =>
      rw [Option.map_eq_some_iff]
      constructor
      · rintro ⟨key, hkey, htyping⟩
        rw [referenceTyping] at htyping
        split at htyping
        · next t ht =>
            cases htyping
            exact ⟨hkey, t, ht, rfl, rfl⟩
        · cases htyping
      · rintro ⟨hkey, t, ht, rfl, rfl⟩
        exact ⟨target, hkey, by rw [referenceTyping, ht]⟩

end Registry

/-- The class name of a component where it is exported, and else its base type, is what a reference
to it is typed with. -/
lemma Component.WellMarked.getD_eq_iff {config : Config} {c : Component} (h : c.WellMarked config)
    {typeName : String} :
    typeName = c.className?.getD c.kind.baseType ↔
      if c.exported then c.className? = some typeName else typeName = c.kind.baseType := by
  rw [WellMarked] at h
  split <;> rename_i hexported
  · rw [h, if_pos hexported, Option.getD_some, Option.some_inj, eq_comm]
  · rw [h, if_neg hexported, Option.getD_none]

namespace Assets

variable (a : Assets) (config : Config)

/-- The registry at the end is typed. -/
lemma resolveTypes_resolve :
    (a.resolve config).registry.resolveTypes = (a.resolve config).registry := by
  rw [registry_resolve, Registry.resolveTypes_resolveTypes]

/-- **No stale types**: at the end of a resolution a member is typed by a component exactly when it
is exposed and refers to it; the type shows the present kind of the component, and its present class
name where it is exported, its base type where it is not.  The type pass, made once more, changes
nothing and finds the dangling references that were reported. -/
theorem resolve_types_current :
    (∀ c ∈ (a.resolve config).registry.components.items, ∀ m ∈ c.members,
      ∀ target kind typeName, m.typing? = some (.component target kind typeName) ↔
        m.exposed = true ∧ m.target? c.packageId = some target ∧
          ∃ t, (a.resolve config).registry.target? target = some t ∧ kind = t.kind ∧
            if t.exported then t.className? = some typeName else typeName = t.kind.baseType) ∧
    (a.resolve config).registry.resolveTypes = (a.resolve config).registry ∧
    (a.resolve config).registry.resolveTypes.danglingReferences =
      (a.resolve config).dangling := by
  have htyped := a.resolveTypes_resolve config
  refine ⟨fun c hc m hm target kind typeName => ?_, htyped, ?_⟩
  · rw [Registry.typing?_of_typed htyped hc hm]
    by_cases hexposed : m.exposed = true
    · rw [if_pos hexposed, Registry.typing?_eq_component_iff]
      simp only [hexposed, true_and]
      refine and_congr_right fun _ => exists_congr fun t => and_congr_right fun ht => ?_
      have hmem := Registry.component?_eq_some_iff.mp (Registry.target?_eq_some_iff.mp ht).2
      rw [(a.wellMarked_resolve config t hmem.1).getD_eq_iff]
    · simp [hexposed]
  · rw [htyped]
    exact (a.dangling_resolve config).symm

end Assets

end UiBinding
