/-
The passes of a resolution, each as one change of every component.

The export pass and the type pass go over the whole registry anyway.  The pass that exports what
root panels lead to changes one component after the other; taken together it is one change too,
which depends only on what was exported before it.

* `registry_reachAll`: the registry after that pass;
* `contains_of_added_eq`: if that pass adds no export, all that it goes through was exported before;
* `referenceTyping_mapComponents`: the type pass looks at the kinds and the class names only;
* `resolveTypes_resolveTypes`: the type pass, made twice, does what it does once.
-/
import UiBinding.Proofs.Catalog
import UiBinding.Resolution.Basic

namespace UiBinding

/-! ### Changing the components of a registry -/

namespace Registry

variable {r : Registry} {f g : Component → Component}
  {hf : ∀ c, (f c).key = c.key} {hg : ∀ c, (g c).key = c.key}

@[simp]
lemma component?_mapComponents (key : Component.Key) :
    (r.mapComponents f hf).component? key = (r.component? key).map f :=
  Catalog.find?_mapItems hf r.components key

@[simp]
lemma package?_mapComponents (id : String) : (r.mapComponents f hf).package? id = r.package? id :=
  rfl

@[simp]
lemma packages_mapComponents : (r.mapComponents f hf).packages = r.packages := rfl

@[simp]
lemma items_mapComponents : (r.mapComponents f hf).components.items = r.components.items.map f :=
  rfl

/-- Two changes one after the other are one change. -/
lemma mapComponents_mapComponents :
    (r.mapComponents f hf).mapComponents g hg =
      r.mapComponents (fun c => g (f c)) (fun c => (hg (f c)).trans (hf c)) := by
  simp [mapComponents, Catalog.mapItems_mapItems]

/-- Changes that do the same to every registered component give the same registry. -/
lemma mapComponents_congr (h : ∀ c ∈ r.components.items, f c = g c) :
    r.mapComponents f hf = r.mapComponents g hg := by
  simp [mapComponents, Catalog.mapItems_congr hf hg h]

/-- A change that leaves every registered component as it is leaves the registry as it is. -/
lemma mapComponents_eq_self (h : ∀ c ∈ r.components.items, f c = c) :
    r.mapComponents f hf = r := by
  simp [mapComponents, Catalog.mapItems_eq_self hf h]

/-- If a change leaves the registry as it is, it leaves every registered component as it is. -/
lemma eq_of_mapComponents_eq_self (h : r.mapComponents f hf = r) :
    ∀ c ∈ r.components.items, f c = c :=
  Catalog.eq_of_mapItems_eq_self hf (congrArg components h)

/-- A component that is found is registered, under its own key. -/
lemma component?_eq_some_iff {key : Component.Key} {c : Component} :
    r.component? key = some c ↔ c ∈ r.components.items ∧ c.key = key :=
  Catalog.find?_eq_some_iff

/-! ### The type pass -/

section

variable (r : Registry) (c : Component)

@[simp]
lemma key_resolveComponent : (r.resolveComponent c).key = c.key := rfl

@[simp]
lemma controllers_resolveComponent : (r.resolveComponent c).controllers = c.controllers := rfl

@[simp]
lemma exported_resolveComponent : (r.resolveComponent c).exported = c.exported := rfl

@[simp]
lemma reachable_resolveComponent : (r.resolveComponent c).reachable = c.reachable := rfl

end

/-- A reference leads to a component exactly when both its package and it are registered. -/
lemma target?_eq_some_iff {key : Component.Key} {c : Component} :
    r.target? key = some c ↔ (r.package? key.packageId).isSome ∧ r.component? key = some c := by
  rw [target?]
  cases r.package? key.packageId <;> simp

lemma target?_mapComponents (key : Component.Key) :
    (r.mapComponents f hf).target? key = (r.target? key).map f := by
  unfold target?
  rw [package?_mapComponents, component?_mapComponents]
  cases r.package? key.packageId <;> rfl

/-- The types of references depend on the kinds and the class names of the components only. -/
lemma referenceTyping_mapComponents
    (h : ∀ c ∈ r.components.items, (f c).kind = c.kind ∧ (f c).className? = c.className?) :
    (r.mapComponents f hf).referenceTyping = r.referenceTyping := by
  funext key
  unfold referenceTyping
  rw [target?_mapComponents]
  cases htarget : r.target? key with
  | none => rfl
  | some c =>
      have hmem := (component?_eq_some_iff.mp (target?_eq_some_iff.mp htarget).2).1
      obtain ⟨hkind, hclass⟩ := h c hmem
      simp [hkind, hclass]

/-- An object with a framework type of its own refers to nothing. -/
lemma target?_of_baseType? {m : Member} {baseType : String} (h : m.kind.baseType? = some baseType)
    (owner : String) : m.target? owner = none := by
  have hkind : m.kind ≠ .component := by
    intro hkind
    rw [hkind] at h
    cases h
  exact if_neg hkind

/-- The types of members depend on the types of references only. -/
lemma resolveComponent_congr {r s : Registry} (h : r.referenceTyping = s.referenceTyping) :
    r.resolveComponent = s.resolveComponent := by
  funext c
  simp [resolveComponent, resolveMember, typing?, h]

/-- After the type pass a component is found under its key, with the types of its members. -/
lemma component?_resolveTypes (r : Registry) (key : Component.Key) :
    r.resolveTypes.component? key = (r.component? key).map r.resolveComponent :=
  component?_mapComponents key

/-- Typing a component anew changes nothing. -/
lemma resolveComponent_resolveComponent (r : Registry) (c : Component) :
    r.resolveComponent (r.resolveComponent c) = r.resolveComponent c := by
  simp only [resolveComponent, List.map_map]
  rfl

/-- The types of references are the same after the type pass. -/
lemma referenceTyping_resolveTypes (r : Registry) :
    r.resolveTypes.referenceTyping = r.referenceTyping :=
  referenceTyping_mapComponents fun _ _ => ⟨rfl, rfl⟩

/-- The type pass, made twice, does what it does once. -/
lemma resolveTypes_resolveTypes (r : Registry) : r.resolveTypes.resolveTypes = r.resolveTypes := by
  refine mapComponents_eq_self fun c hc => ?_
  rw [resolveComponent_congr r.referenceTyping_resolveTypes]
  obtain ⟨d, -, rfl⟩ := List.mem_map.mp hc
  exact r.resolveComponent_resolveComponent d

/-- The dangling references depend on the files and the members of the components only. -/
lemma danglingReferences_mapComponents
    (h : ∀ c, (f c).fileName = c.fileName ∧ (f c).members = c.members) :
    (r.mapComponents f hf).danglingReferences = r.danglingReferences := by
  rw [danglingReferences]
  rw [items_mapComponents, List.flatMap_map]
  congr 1
  funext c
  have hpackage : (f c).packageId = c.packageId := congrArg Component.Key.packageId (hf c)
  obtain ⟨hfile, hmembers⟩ := h c
  simp only [danglingReferencesOf, hfile, hmembers, hf, hpackage]
  rfl

end Registry

/-! ### Exporting what root panels lead to -/

/-- What happens to a component that a root panel leads to: it is noted, and exported unless it is
exported already. -/
def Component.joinExports (config : Config) (exports : Exports) (c : Component) : Component :=
  if exports.contains c.key then c.markReachable else c.markReachable.markExported config

/-- Joining keeps the key. -/
lemma Component.key_joinExports (config : Config) (exports : Exports) (c : Component) :
    (c.joinExports config exports).key = c.key := by
  rw [joinExports]
  split <;> rfl

/-- Joining looks at the component's own place in the exports only. -/
lemma Component.joinExports_congr {config : Config} {e e' : Exports} {c : Component}
    (h : e.contains c.key = e'.contains c.key) :
    c.joinExports config e = c.joinExports config e' := by
  simp [joinExports, h]

/-- A component that has joined the exports joins them again without a change. -/
lemma Component.joinExports_joinExports {config : Config} {e e' : Exports} {c : Component}
    (h : e'.contains c.key = true) :
    (c.joinExports config e).joinExports config e' = c.joinExports config e := by
  rw [joinExports, key_joinExports, h, if_pos rfl]
  rw [joinExports]
  split <;> rfl

namespace ExportPass

variable (config : Config)

/-- What a list of keys does to a component. -/
def joinListed (exports : Exports) (keys : List Component.Key) (c : Component) : Component :=
  if c.key ∈ keys then c.joinExports config exports else c

lemma key_joinListed (exports : Exports) (keys : List Component.Key) (c : Component) :
    (joinListed config exports keys c).key = c.key := by
  rw [joinListed]
  split
  · exact Component.key_joinExports config exports c
  · rfl

/-- One step changes the component with the key, if it is registered. -/
lemma registry_reach (p : ExportPass) (key : Component.Key) :
    (p.reach config key).registry =
      p.registry.mapComponents (joinListed config p.exports [key])
        (key_joinListed config p.exports [key]) := by
  rw [reach]
  split
  · next hnone =>
      refine (Registry.mapComponents_eq_self fun c hc => ?_).symm
      have hne : c.key ≠ key := by
        rintro rfl
        rw [Registry.component?_eq_some_iff.mpr ⟨hc, rfl⟩] at hnone
        cases hnone
      simp [joinListed, hne]
  · split
    · next hcontains =>
        refine Registry.mapComponents_congr fun c _ => ?_
        by_cases hkey : c.key = key
        · simp [joinListed, Component.joinExports, hkey, hcontains]
        · simp [joinListed, hkey]
    · next hcontains =>
        refine Registry.mapComponents_congr fun c _ => ?_
        by_cases hkey : c.key = key
        · simp [joinListed, Component.joinExports, hkey, hcontains]
        · simp [joinListed, hkey]

/-- One step exports the component with the key, if it is registered. -/
lemma contains_reach_iff (p : ExportPass) (key other : Component.Key) :
    (p.reach config key).exports.contains other = true ↔
      p.exports.contains other = true ∨
        (other = key ∧ (p.registry.component? key).isSome = true) := by
  rw [reach]
  split
  · next hnone =>
      rw [Option.isNone_iff_eq_none] at hnone
      simp [hnone]
  · next hsome =>
      rw [Option.isNone_iff_eq_none, ← ne_eq, Option.ne_none_iff_isSome] at hsome
      split
      · next hcontains =>
          refine ⟨Or.inl, fun h => h.elim id ?_⟩
          rintro ⟨rfl, -⟩
          exact hcontains
      · rw [Exports.contains_insert, Bool.or_eq_true, decide_eq_true_eq]
        simp only [hsome, and_true, eq_comm, or_comm]

/-- A step either leaves the exports and their number as they are, and then the key was exported
before or is not registered, or counts one export more. -/
lemma reach_cases (p : ExportPass) (key : Component.Key) :
    ((p.reach config key).exports = p.exports ∧ (p.reach config key).added = p.added ∧
      ((p.registry.component? key).isSome = true → p.exports.contains key = true)) ∨
    (p.reach config key).added = p.added + 1 := by
  rw [reach]
  split
  · next hnone =>
      rw [Option.isNone_iff_eq_none] at hnone
      exact Or.inl ⟨rfl, rfl, fun hsome => by simp [hnone] at hsome⟩
  · split
    · next hcontains => exact Or.inl ⟨rfl, rfl, fun _ => hcontains⟩
    · exact Or.inr rfl

/-- The number of exports that were added never falls. -/
lemma added_le_reachAll (p : ExportPass) (keys : List Component.Key) :
    p.added ≤ (p.reachAll config keys).added := by
  induction keys generalizing p with
  | nil => exact Nat.le_refl _
  | cons key keys ih =>
      have hrest := ih (p.reach config key)
      rw [reachAll, List.foldl_cons, ← reachAll]
      rcases p.reach_cases config key with ⟨-, hadded, -⟩ | hadded <;> omega

/-- If no export was added, everything registered under the keys was exported before. -/
lemma contains_of_added_eq {p : ExportPass} {keys : List Component.Key}
    (h : (p.reachAll config keys).added = p.added) :
    ∀ key ∈ keys, (p.registry.component? key).isSome = true → p.exports.contains key = true := by
  induction keys generalizing p with
  | nil => simp
  | cons key keys ih =>
      rw [reachAll, List.foldl_cons, ← reachAll] at h
      have hle := added_le_reachAll config (p.reach config key) keys
      rcases p.reach_cases config key with ⟨hexports, hadded, hkey⟩ | hadded
      · refine List.forall_mem_cons.mpr ⟨hkey, fun other hother hsome => ?_⟩
        rw [← hexports]
        refine ih (h.trans hadded.symm) other hother ?_
        rw [registry_reach, Registry.component?_mapComponents, Option.isSome_map]
        exact hsome
      · omega

/-- A step for one key and then a change for others are a change for all of them. -/
lemma joinListed_reach (p : ExportPass) (key : Component.Key) (keys : List Component.Key)
    {c : Component} (hc : c ∈ p.registry.components.items) :
    joinListed config (p.reach config key).exports keys (joinListed config p.exports [key] c) =
      joinListed config p.exports (key :: keys) c := by
  have hcontains := p.contains_reach_iff config key c.key
  by_cases hkey : c.key = key
  · subst hkey
    have hsome : (p.registry.component? c.key).isSome = true := by
      rw [Registry.component?_eq_some_iff.mpr ⟨hc, rfl⟩]
      rfl
    have hjoined : (p.reach config c.key).exports.contains c.key = true :=
      hcontains.mpr (Or.inr ⟨rfl, hsome⟩)
    simp [joinListed, Component.key_joinExports, Component.joinExports_joinExports hjoined]
  · have hsame : (p.reach config key).exports.contains c.key = p.exports.contains c.key := by
      rw [Bool.eq_iff_iff, hcontains]
      simp [hkey]
    simp [joinListed, hkey, Component.joinExports_congr hsame]

/-- **The registry after exporting what root panels lead to**: every component that is listed joined
the exports, as they were at first. -/
lemma registry_reachAll (p : ExportPass) (keys : List Component.Key) :
    (p.reachAll config keys).registry =
      p.registry.mapComponents (joinListed config p.exports keys)
        (key_joinListed config p.exports keys) := by
  induction keys generalizing p with
  | nil => exact (Registry.mapComponents_eq_self fun c _ => by simp [joinListed]).symm
  | cons key keys ih =>
      rw [reachAll, List.foldl_cons, ← reachAll, ih, registry_reach,
        Registry.mapComponents_mapComponents]
      exact Registry.mapComponents_congr fun c hc => joinListed_reach config p key keys hc

end ExportPass

end UiBinding
