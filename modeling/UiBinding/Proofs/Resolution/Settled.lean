/-
What becomes of a component: the passes of a resolution, read as one change of the component.

No pass looks at a component by its place, so the registry at the end is the registry at first with
every component settled.  What is settled for a component, its marks apart, depends on what was
authored and on the configuration; the marks depend on the walk as well.

* `Assets.settle` is the change, and `registry_resolve_eq` says that it is the whole resolution;
* `members_settle`: its members, exposed by name and kind and then typed;
* `marks_settle`: its marks;
* `walk_resolve` and `panels_resolve`: the walk is kept, and its root panels are those at first;
* `dangling_resolve_eq`: the dangling references, read off what was authored.
-/
import UiBinding.Proofs.Resolution.Pipeline

namespace UiBinding

namespace Registry

/-- A change of a changed registry is a change of the registry. -/
lemma mapComponents_of_eq {r s : Registry} {f g : Component → Component}
    {hf : ∀ c, (f c).key = c.key} {hg : ∀ c, (g c).key = c.key} (h : r = s.mapComponents f hf) :
    r.mapComponents g hg =
      s.mapComponents (fun c => g (f c)) (fun c => (hg (f c)).trans (hf c)) := by
  rw [h, mapComponents_mapComponents]

/-- The root panels do not depend on what was noted on the components. -/
lemma rootPanels_mapComponents {r : Registry} {f : Component → Component}
    {hf : ∀ c, (f c).key = c.key} : (r.mapComponents f hf).rootPanels = r.rootPanels := by
  simp only [rootPanels, component?_mapComponents, Option.isSome_map, packages_mapComponents]

/-! ### Dangling references -/

/-- A reference is reported as missing exactly if it leads to no component. -/
lemma missing?_referenceTyping (r : Registry) (key : Component.Key) :
    (r.referenceTyping key).missing? = if (r.target? key).isNone then some key else none := by
  rw [referenceTyping]
  cases r.target? key <;> rfl

/-- What is read off the type of a member, if nothing is read off a framework type, is read off the
type of what it refers to. -/
lemma bind_typing? {r : Registry} {owner : String} {m : Member} {α : Type}
    {f : Member.Typing → Option α} (hf : ∀ baseType, f (.display baseType) = none) :
    (r.typing? owner m).bind f = (m.target? owner).bind fun key => f (r.referenceTyping key) := by
  rw [typing?]
  cases hbase : m.kind.baseType? with
  | some baseType =>
      simp [target?_of_baseType? hbase, hf]
  | none => rw [Option.bind_map, Function.comp_def]

/-- What a member is reported to miss: its target, if that is not registered. -/
lemma bind_missing?_typing? (r : Registry) (owner : String) (m : Member) :
    (r.typing? owner m).bind Member.Typing.missing? =
      (m.target? owner).filter fun key => (r.target? key).isNone := by
  rw [bind_typing? fun _ => rfl]
  cases m.target? owner with
  | none => rfl
  | some key => simp only [Option.bind_some, missing?_referenceTyping, Option.filter_some]

end Registry

/-! ### What becomes of a component -/

/-- The first decision: declared exported, requested, or marked reachable already. -/
lemma Component.exported_decideExport_iff (requests : ExportRequests) (config : Config)
    (c : Component) : (c.decideExport requests config).exported = true ↔
      c.declaredExported = true ∨ requests.contains c.key.url = true ∨ c.reachable = true := by
  rw [decideExport, Bool.or_eq_true, Bool.or_eq_true, or_assoc, url]

namespace Assets

variable (a : Assets) (config : Config)

/-- What the passes before the walk make of a component. -/
def prepare (c : Component) : Component :=
  (a.exportPass config).registry.resolveComponent (c.decideExport a.requests config)

/-- What the whole resolution makes of a component. -/
def settle (c : Component) : Component :=
  (a.reachPass config).registry.resolveComponent (a.joinWalk config (a.prepare config c))

lemma key_prepare (c : Component) : (a.prepare config c).key = c.key := rfl

lemma key_joinWalk_prepare (c : Component) :
    (a.joinWalk config (a.prepare config c)).key = c.key :=
  a.key_joinWalk config _

lemma key_settle (c : Component) : (a.settle config c).key = c.key := by
  rw [settle, Registry.key_resolveComponent, key_joinWalk_prepare]

/-- The registry after the export pass. -/
lemma registry_exportPass_eq :
    (a.exportPass config).registry =
      a.registry.mapComponents (Component.decideExport a.requests config)
        (Component.key_decideExport a.requests config) := rfl

/-- The registry when the walk begins. -/
lemma registry_typePass_eq :
    (a.typePass config).registry =
      a.registry.mapComponents (a.prepare config) (a.key_prepare config) :=
  Registry.mapComponents_of_eq (a.registry_exportPass_eq config)

/-- The registry after the sub-panels have been exported. -/
lemma registry_reachPass_eq :
    (a.reachPass config).registry =
      a.registry.mapComponents (fun c => a.joinWalk config (a.prepare config c))
        (a.key_joinWalk_prepare config) :=
  (a.registry_reachPass config).trans
    (Registry.mapComponents_of_eq (a.registry_typePass_eq config))

/-- **The registry at the end** is the registry at first with every component settled. -/
lemma registry_resolve_eq :
    (a.resolve config).registry = a.registry.mapComponents (a.settle config)
      (a.key_settle config) :=
  (a.registry_resolve config).trans
    (Registry.mapComponents_of_eq (a.registry_reachPass_eq config))

/-! ### Members and controllers -/

/-- What the walk does to a component leaves its parts alone. -/
lemma parts_joinWalk (c : Component) :
    (a.joinWalk config c).members = c.members ∧
      (a.joinWalk config c).controllers = c.controllers ∧
      (a.joinWalk config c).packageId = c.packageId ∧
      (a.joinWalk config c).fileName = c.fileName := by
  rw [joinWalk]
  split <;> exact ⟨rfl, rfl, rfl, rfl⟩

/-- The members at the end: exposed by name and kind, and typed after the walk. -/
lemma members_settle (c : Component) :
    (a.settle config c).members = c.members.map fun m =>
      (a.reachPass config).registry.resolveMember c.packageId
        { m with exposed := isExposedMember config.ignoreDefaultNames m.name m.kind } := by
  obtain ⟨hmembers, -, hpackage, -⟩ := a.parts_joinWalk config (a.prepare config c)
  rw [settle, Registry.resolveComponent, hmembers, hpackage]
  simp only [prepare, Registry.resolveComponent, Component.decideExport, Component.expose,
    List.map_map]
  rfl

/-- The controllers at the end: exposed by name. -/
lemma controllers_settle (c : Component) :
    (a.settle config c).controllers = c.controllers.map fun k =>
      { k with exposed := isExposedController config.ignoreDefaultNames k.name } := by
  obtain ⟨-, hcontrollers, -⟩ := a.parts_joinWalk config (a.prepare config c)
  rw [settle, Registry.controllers_resolveComponent, hcontrollers, prepare,
    Registry.controllers_resolveComponent]
  rfl

/-- Settling a component changes nothing but the notes on it. -/
lemma settle_eq (c : Component) :
    a.settle config c =
      { c with
        controllers := (a.settle config c).controllers
        members := (a.settle config c).members
        exported := (a.settle config c).exported
        reachable := (a.settle config c).reachable
        className? := (a.settle config c).className? } := by
  rw [settle, joinWalk]
  by_cases hkey : (a.prepare config c).key ∈ (a.walk config).keys
  · simp only [hkey, if_true]
    rfl
  · simp only [hkey, if_false]
    rfl

/-- The file of a component stays what it is. -/
lemma fileName_settle (c : Component) : (a.settle config c).fileName = c.fileName := by
  rw [settle_eq]

/-! ### Marks -/

/-- The marks after the walk. -/
lemma marks_joinWalk (c : Component) :
    ((a.joinWalk config c).exported = true ↔
      c.key ∈ (a.walk config).keys ∨ c.exported = true) ∧
    ((a.joinWalk config c).reachable = true ↔
      c.key ∈ (a.walk config).keys ∨ c.reachable = true) := by
  rw [joinWalk]
  split
  · next hkey => exact ⟨⟨fun _ => Or.inl hkey, fun _ => rfl⟩, ⟨fun _ => Or.inl hkey, fun _ => rfl⟩⟩
  · next hkey => exact ⟨(or_iff_right hkey).symm, (or_iff_right hkey).symm⟩

/-- The marks at the end: those of the first decision and of the walk. -/
lemma marks_settle (c : Component) :
    ((a.settle config c).exported = true ↔ c.key ∈ (a.walk config).keys ∨
      c.declaredExported = true ∨ a.requests.contains c.key.url = true ∨ c.reachable = true) ∧
    ((a.settle config c).reachable = true ↔
      c.key ∈ (a.walk config).keys ∨ c.reachable = true) := by
  obtain ⟨hexported, hreachable⟩ := a.marks_joinWalk config (a.prepare config c)
  have hdecided : (a.prepare config c).exported = true ↔ c.declaredExported = true ∨
      a.requests.contains c.key.url = true ∨ c.reachable = true := by
    rw [prepare, Registry.exported_resolveComponent, Component.exported_decideExport_iff]
  rw [settle, Registry.exported_resolveComponent, Registry.reachable_resolveComponent, hexported,
    hreachable, hdecided, key_prepare]
  exact ⟨Iff.rfl, Iff.rfl⟩

/-! ### The walk -/

/-- The walk is made before the sub-panels are exported, and kept. -/
lemma walk_resolve : (a.resolve config).walk = a.walk config := by
  rw [resolve]
  dsimp only
  split <;> rfl

/-- The root panels of the walk are those of the registry at first. -/
lemma panels_resolve : (a.resolve config).walk.panels = a.registry.rootPanels := by
  rw [walk_resolve]
  change (a.typePass config).registry.rootPanels = _
  rw [registry_typePass_eq, Registry.rootPanels_mapComponents]

/-! ### Dangling references -/

/-- The dangling reference that a field of a component makes, if its target is not registered. -/
def dangling? (c : Component) (m : Member) : Option DanglingReference :=
  ((m.target? c.packageId).filter fun key => (a.registry.target? key).isNone).map fun target =>
    ⟨c.key, Component.label (a.registry.packageName c.packageId) c.fileName, m.name, target⟩

/-- What a member of a settled component is reported to miss. -/
lemma bind_missing?_settled (owner : String) (m : Member) :
    ((a.reachPass config).registry.typing? owner m).bind Member.Typing.missing? =
      (m.target? owner).filter fun key => (a.registry.target? key).isNone := by
  rw [Registry.bind_missing?_typing?, registry_reachPass_eq]
  -- the same components are registered before and after the walk
  simp only [Registry.target?_mapComponents, Option.isNone_map]

/-- **The dangling references** are made by the members that become fields and refer to a component
that is not registered. -/
lemma dangling_resolve_eq :
    (a.resolve config).dangling = a.registry.components.items.flatMap fun c =>
      (c.members.filter fun m =>
        isExposedMember config.ignoreDefaultNames m.name m.kind).filterMap (a.dangling? c) := by
  rw [dangling_resolve, Registry.danglingReferences, registry_resolve_eq,
    Registry.items_mapComponents, List.flatMap_map]
  refine List.flatMap_congr fun c _ => ?_
  have hkey := a.key_settle config c
  have hpackage : (a.settle config c).packageId = c.packageId :=
    congrArg Component.Key.packageId hkey
  rw [Registry.danglingReferencesOf, members_settle, List.filterMap_map, List.filterMap_filter,
    hkey, hpackage, fileName_settle]
  refine List.filterMap_congr fun m _ => ?_
  rw [Function.comp_apply, Registry.resolveMember]
  dsimp only
  split
  · rw [bind_missing?_settled]
    rfl
  · rfl

end Assets

end UiBinding
