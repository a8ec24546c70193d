/-
Who is exported: the export decision, read off the registry at the end.

The walk follows the types that the first type pass found, and between the two stand passes that
write notes.  None of them changes what a field refers to, of which kind a component is, or which
components there are, so the walk can be described in the registry at the end.

* `Registry.Nests` and `Registry.IsRootPanel`: the edges and the roots, without types and searches;
* `leads_subPanelEdges_iff`: in a typed registry the walk follows just these edges;
* `mem_keys_walk_iff_underRootPanel`: in a typed registry the walk lists what root panels lead to;
* `mem_keys_walk_iff_resolve` and `mem_keys_walk_iff_exportPass`: what it lists, in the registry at
  the end and in the one before any type was noted;
* `exported_resolve_iff`: a component is exported exactly when it is declared exported, requested,
  or led to by a root panel.
-/
import Mathlib
import UiBinding.Proofs.Resolution.Settled
import UiBinding.Proofs.Resolution.Stability
import UiBinding.Proofs.Walk.Exactness

namespace UiBinding

/-! ### Edges and roots -/

/-- The components that the fields of a component refer to. -/
def Component.references (c : Component) : List Component.Key :=
  c.exposedMembers.filterMap (Member.target? c.packageId)

namespace Registry

/-- A registered component has a field that refers to a registered plain container. -/
def Nests (r : Registry) (a b : Component.Key) : Prop :=
  ∃ c, r.component? a = some c ∧ b ∈ c.references ∧ ∃ t, r.target? b = some t ∧ t.kind = .component

/-- The manifest of a package has an entry for its root panel, and the component was read. -/
def IsRootPanel (r : Registry) (key : Component.Key) : Prop :=
  ∃ p ∈ r.packages.items, ∃ entry ∈ p.entries.items, entry.fileName = p.name ++ "Panel.xml" ∧
    key = ⟨p.id, entry.id⟩ ∧ ∃ c, r.component? key = some c

/-- A root panel leads to a component in one or more steps. -/
def UnderRootPanel (r : Registry) (key : Component.Key) : Prop :=
  ∃ root, r.IsRootPanel root ∧ Relation.TransGen r.Nests root key

/-- The roots of the walk. -/
lemma exists_mem_rootPanels_iff {r : Registry} {key : Component.Key} :
    (∃ panel ∈ r.rootPanels, panel.component = key) ↔ r.IsRootPanel key := by
  simp only [rootPanels, rootPanelKey?, List.mem_filterMap, Option.map_eq_some_iff,
    Option.filter_eq_some_iff, Option.isSome_iff_exists]
  constructor
  · rintro ⟨panel, ⟨p, hp, other, ⟨⟨entry, hentry, rfl⟩, hsome⟩, rfl⟩, rfl⟩
    obtain ⟨hmem, hname⟩ := Catalog.find?_eq_some_iff.mp hentry
    exact ⟨p, hp, entry, hmem, hname, rfl, hsome⟩
  · rintro ⟨p, hp, entry, hentry, hname, rfl, hsome⟩
    refine ⟨_, ⟨p, hp, _, ⟨⟨entry, ?_, rfl⟩, hsome⟩, rfl⟩, rfl⟩
    exact Catalog.find?_eq_some_iff.mpr ⟨hentry, hname⟩

/-- A component has an edge to each place that a field of it has a plain container as its type. -/
lemma exists_subPanelEdge_iff {c : Component} {b : Component.Key} :
    (∃ e ∈ c.subPanelEdges, e.target = b) ↔
      ∃ m ∈ c.exposedMembers, ∃ typeName, m.typing? = some (.component b .component typeName) := by
  simp only [Component.subPanelEdges, List.mem_filterMap, Option.map_eq_some_iff]
  constructor
  · rintro ⟨-, ⟨m, hm, target, htarget, rfl⟩, rfl⟩
    refine ⟨m, hm, ?_⟩
    obtain ⟨typing, htyping, hsub⟩ := Option.bind_eq_some_iff.mp htarget
    unfold Member.Typing.subPanel? at hsub
    split at hsub
    · cases hsub
      exact ⟨_, htyping⟩
    · cases hsub
  · rintro ⟨m, hm, typeName, htyping⟩
    exact ⟨⟨m.name, b⟩, ⟨m, hm, b, by rw [htyping]; rfl, rfl⟩, rfl⟩

/-- In a typed registry the walk follows the references of fields to plain containers. -/
lemma leads_subPanelEdges_iff {r : Registry} (h : r.resolveTypes = r) {a b : Component.Key} :
    Search.Leads r.subPanelEdges a b ↔ r.Nests a b := by
  rw [Search.Leads, subPanelEdges, Nests]
  cases hfound : r.component? a with
  | none => simp
  | some c =>
      have hc := (component?_eq_some_iff.mp hfound).1
      simp only [exists_subPanelEdge_iff, Option.some_inj, exists_eq_left', Component.references,
        List.mem_filterMap, Component.exposedMembers, List.mem_filter]
      constructor
      · rintro ⟨m, ⟨hm, hexposed⟩, typeName, htyping⟩
        rw [typing?_of_typed h hc hm, if_pos hexposed, typing?_eq_component_iff] at htyping
        obtain ⟨htarget, t, ht, hkind, -⟩ := htyping
        exact ⟨⟨m, ⟨hm, hexposed⟩, htarget⟩, t, ht, hkind.symm⟩
      · rintro ⟨⟨m, ⟨hm, hexposed⟩, htarget⟩, t, ht, hkind⟩
        refine ⟨m, ⟨hm, hexposed⟩, t.className?.getD t.kind.baseType, ?_⟩
        rw [typing?_of_typed h hc hm, if_pos hexposed, typing?_eq_component_iff]
        exact ⟨htarget, t, ht, hkind.symm, rfl⟩

/-- In a typed registry the walk lists what root panels lead to. -/
lemma mem_keys_walk_iff_underRootPanel {r : Registry} (h : r.resolveTypes = r)
    {key : Component.Key} : key ∈ r.walk.keys ↔ r.UnderRootPanel key := by
  have hedges : Search.Leads r.subPanelEdges = r.Nests := by
    funext a b
    exact propext (leads_subPanelEdges_iff h)
  rw [mem_keys_walk_iff, Search.Reaches, hedges]
  constructor
  · rintro ⟨panel, hpanel, hpath⟩
    exact ⟨panel.component, exists_mem_rootPanels_iff.mp ⟨panel, hpanel, rfl⟩, hpath⟩
  · rintro ⟨root, hroot, hpath⟩
    obtain ⟨panel, hpanel, rfl⟩ := exists_mem_rootPanels_iff.mpr hroot
    exact ⟨panel, hpanel, hpath⟩

/-! ### Notes do not matter -/

/-- A change that keeps the references and the kind of every component keeps what root panels lead
to. -/
lemma underRootPanel_mapComponents {r : Registry} {f : Component → Component}
    {hf : ∀ c, (f c).key = c.key}
    (h : ∀ c, (f c).references = c.references ∧ (f c).kind = c.kind) {key : Component.Key} :
    (r.mapComponents f hf).UnderRootPanel key ↔ r.UnderRootPanel key := by
  have hnests : (r.mapComponents f hf).Nests = r.Nests := by
    funext a b
    simp [Nests, target?_mapComponents, h]
  have hroots : (r.mapComponents f hf).IsRootPanel = r.IsRootPanel := by
    funext root
    simp [IsRootPanel]
  simp only [UnderRootPanel, hnests, hroots]

/-- Typing the members of a component keeps what they refer to. -/
lemma references_resolveComponent (r : Registry) (c : Component) :
    (r.resolveComponent c).references = c.references := by
  simp only [Component.references, Component.exposedMembers, resolveComponent, List.filter_map,
    List.filterMap_map]
  rfl

/-- The type pass keeps what root panels lead to. -/
lemma underRootPanel_resolveTypes (r : Registry) {key : Component.Key} :
    r.resolveTypes.UnderRootPanel key ↔ r.UnderRootPanel key :=
  underRootPanel_mapComponents fun c => ⟨r.references_resolveComponent c, rfl⟩

end Registry

/-! ### The decision -/

namespace Assets

variable (a : Assets) (config : Config)

/-- What the walk does to a component touches neither its references nor its kind. -/
lemma references_joinWalk (c : Component) :
    (a.joinWalk config c).references = c.references ∧ (a.joinWalk config c).kind = c.kind := by
  rw [joinWalk]
  split <;> exact ⟨rfl, rfl⟩

/-- What the walk listed, in the registry that it went through. -/
lemma mem_keys_walk_iff_typePass {key : Component.Key} :
    key ∈ (a.walk config).keys ↔ (a.typePass config).registry.UnderRootPanel key :=
  Registry.mem_keys_walk_iff_underRootPanel (Registry.resolveTypes_resolveTypes _)

/-- What the walk listed, in the registry at the end. -/
lemma mem_keys_walk_iff_resolve {key : Component.Key} :
    key ∈ (a.walk config).keys ↔ (a.resolve config).registry.UnderRootPanel key := by
  rw [mem_keys_walk_iff_typePass, registry_resolve, Registry.underRootPanel_resolveTypes,
    registry_reachPass, Registry.underRootPanel_mapComponents (a.references_joinWalk config)]

/-- What the walk listed, before types were noted: it follows the fields that the export pass
exposed. -/
lemma mem_keys_walk_iff_exportPass {key : Component.Key} :
    key ∈ (a.walk config).keys ↔ (a.exportPass config).registry.UnderRootPanel key := by
  rw [mem_keys_walk_iff_typePass]
  exact Registry.underRootPanel_resolveTypes _

/-- The marks at the end are those of the first decision and of the walk. -/
lemma marks_resolve {c : Component} (hc : c ∈ (a.resolve config).registry.components.items) :
    ∃ d, a.registry.component? c.key = some d ∧
      (c.reachable = true ↔ c.key ∈ (a.walk config).keys ∨ d.reachable = true) ∧
      (c.exported = true ↔ c.key ∈ (a.walk config).keys ∨ d.declaredExported = true ∨
        a.requests.contains c.key.url = true ∨ d.reachable = true) := by
  rw [registry_resolve_eq] at hc
  obtain ⟨d, hd, rfl⟩ := List.mem_map.mp hc
  obtain ⟨hexported, hreachable⟩ := a.marks_settle config d
  rw [key_settle]
  exact ⟨d, Registry.component?_eq_some_iff.mpr ⟨hd, rfl⟩, hreachable, hexported⟩

/-- **The export decision**: if no component is marked reachable at first, a component is exported
at the end exactly when it is declared exported, requested, or led to by a root panel, and it is
marked reachable exactly when a root panel leads to it. -/
theorem exported_resolve_iff (fresh : ∀ c ∈ a.registry.components.items, c.reachable = false) :
    ∀ c ∈ (a.resolve config).registry.components.items,
      (c.exported = true ↔
        (∃ d, a.registry.component? c.key = some d ∧ d.declaredExported = true) ∨
          a.requests.contains c.url = true ∨
          (a.resolve config).registry.UnderRootPanel c.key) ∧
      (c.reachable = true ↔ (a.resolve config).registry.UnderRootPanel c.key) := by
  intro c hc
  obtain ⟨d, hd, hreachable, hexported⟩ := a.marks_resolve config hc
  have hunmarked : d.reachable ≠ true := by
    simp [fresh d (Registry.component?_eq_some_iff.mp hd).1]
  rw [a.mem_keys_walk_iff_resolve config] at hreachable hexported
  have hwalk := hreachable.trans (or_iff_left hunmarked)
  refine ⟨?_, hwalk⟩
  have hdeclared : (∃ e, a.registry.component? c.key = some e ∧ e.declaredExported = true) ↔
      d.declaredExported = true := by
    rw [hd]
    simp
  rw [hexported, hdeclared, or_iff_left hunmarked, or_comm, or_assoc]
  rfl

/-- A package whose root panel holds a second component, which holds the root panel in turn. -/
def cyclic : Assets where
  registry :=
    { packages := .ofList [⟨"p", "Main", ⟨"Main"⟩, .ofList
        [⟨"a", "MainPanel.xml", ⟨"Main/MainPanel.xml"⟩, false⟩,
          ⟨"b", "Row.xml", ⟨"Main/Row.xml"⟩, false⟩]⟩]
      components := .ofList
        [⟨"p", "a", "MainPanel.xml", .component, false, [], [reference "row" "b"], false, false,
            none⟩,
          ⟨"p", "b", "Row.xml", .component, false, [], [reference "top" "a"], false, false, none⟩]
      warnings := [] }
  requests := .empty
where
  /-- A reference to a component of the same package. -/
  reference (name src : String) : Member :=
    ⟨.mk "component" (.ofList [("name", name), ("src", src)]) [], false, none⟩

/-- A root panel that a component below it holds leads back to itself, and is exported. -/
theorem underRootPanel_cyclic :
    (∀ c ∈ cyclic.registry.components.items, c.reachable = false) ∧
      ∃ c ∈ (cyclic.resolve {}).registry.components.items,
        c.key = ⟨"p", "a"⟩ ∧ c.exported = true ∧
          (cyclic.resolve {}).registry.UnderRootPanel c.key := by
  have fresh : ∀ c ∈ cyclic.registry.components.items, c.reachable = false := by
    decide +kernel
  have hmarks : ((cyclic.resolve {}).registry.component? ⟨"p", "a"⟩).map
      (fun c => (c.exported, c.reachable)) = some (true, true) := by cbv
  obtain ⟨c, hc, hmarked⟩ := Option.map_eq_some_iff.mp hmarks
  obtain ⟨hmem, hkey⟩ := Registry.component?_eq_some_iff.mp hc
  obtain ⟨hexported, hreachable⟩ := Prod.mk.inj hmarked
  obtain ⟨-, hunder⟩ := cyclic.exported_resolve_iff {} fresh c hmem
  exact ⟨fresh, c, hmem, hkey, hexported, hunder.mp hreachable⟩

end Assets

end UiBinding
