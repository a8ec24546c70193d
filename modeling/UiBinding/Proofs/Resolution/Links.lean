/-
Links: what the walk can see of a typed registry.

The walk follows types, but of a type it looks only at the place that a reference leads to.  Where
all types are up to date, that place is the one that the reference names, so the walk depends only
on the packages, on the kinds of the components and on what their fields refer to.

* `Component.links` are the fields of a component with what they refer to;
* `subPanelEdges_of_typed`: in a typed registry the edges of a component are its links to plain
  containers;
* `walk_congr`: registries with the same root panels and edges are walked alike;
* `walk_eq_of_visible`: so are typed registries in which the walk sees the same.
-/
import UiBinding.Proofs.Resolution.Settled
import UiBinding.Proofs.Resolution.Stability

namespace UiBinding

/-- The names of the fields of a component, with the components that they refer to. -/
def Component.links (c : Component) : List (String × Option Component.Key) :=
  c.exposedMembers.map fun m => (m.name, m.target? c.packageId)

/-- What the walk can see of a component. -/
def Component.visible (c : Component) :
    Component.Key × Component.Kind × List (String × Option Component.Key) :=
  (c.key, c.kind, c.links)

namespace Registry

variable {r s : Registry}

/-- Typing a component changes nothing that the walk sees of it. -/
lemma visible_resolveComponent (r : Registry) (c : Component) :
    (r.resolveComponent c).visible = c.visible := by
  simp only [Component.visible, Component.links, Component.exposedMembers, resolveComponent,
    List.filter_map, List.map_map]
  rfl

/-! ### Edges -/

/-- Whether a key leads to a registered plain container. -/
def leadsToContainer (r : Registry) (key : Component.Key) : Bool :=
  (r.target? key).any fun c => c.kind = .component

/-- A reference is typed by a sub-panel exactly if it leads to a plain container. -/
lemma subPanel?_referenceTyping (r : Registry) (key : Component.Key) :
    (r.referenceTyping key).subPanel? = if r.leadsToContainer key then some key else none := by
  rw [referenceTyping, leadsToContainer]
  cases r.target? key with
  | none => rfl
  | some c =>
      obtain ⟨_, _, _, kind⟩ := c
      cases kind <;> rfl

/-- The edges that a list of links makes in a registry. -/
def edgesOf (r : Registry) (links : List (String × Option Component.Key)) :
    List (Edge Component.Key) :=
  links.filterMap fun link => (link.2.filter r.leadsToContainer).map fun target => ⟨link.1, target⟩

/-- **In a typed registry** the edges of a component are its links to plain containers. -/
lemma subPanelEdges_of_typed (h : r.resolveTypes = r) {c : Component}
    (hc : c ∈ r.components.items) : c.subPanelEdges = r.edgesOf c.links := by
  rw [Component.subPanelEdges, edgesOf, Component.links, List.filterMap_map]
  refine List.filterMap_congr fun m hm => ?_
  obtain ⟨hmem, hexposed⟩ := List.mem_filter.mp hm
  have htyping : m.typing? = r.typing? c.packageId m := by
    rw [typing?_of_typed h hc hmem, if_pos hexposed]
  have hsub : m.typing?.bind Member.Typing.subPanel? =
      (m.target? c.packageId).filter r.leadsToContainer := by
    rw [htyping, bind_typing? fun _ => rfl]
    cases m.target? c.packageId with
    | none => rfl
    | some key => simp [subPanel?_referenceTyping, Option.filter_some]
  rw [hsub]
  rfl

/-! ### Walks -/

/-- Registries with the same packages, the same components and the same edges are walked alike. -/
lemma walk_congr (hpackages : r.packages = s.packages)
    (hregistered : ∀ key, (r.component? key).isSome = (s.component? key).isSome)
    (hedges : r.subPanelEdges = s.subPanelEdges) : r.walk = s.walk := by
  have hroots : r.rootPanels = s.rootPanels := by
    simp only [rootPanels, hpackages, hregistered]
  have hrow : r.subPanel = s.subPanel := by
    funext d
    simp only [subPanel, packageName, package?, hpackages]
  -- that the search ends is proved of both edge functions, which are the same
  have hsearch : ∀ roots visited,
      Search.searchAll r.subPanelEdges r.finitelyReachable_subPanelEdges roots visited =
        Search.searchAll s.subPanelEdges s.finitelyReachable_subPanelEdges roots visited := by
    intro roots visited
    congr 1
  simp only [walk, hroots, hrow, hsearch]

/-- Where the same is listed of all components in order, the same is known of the one under a
key. -/
lemma map_component?_congr {α : Type} {f : Component → α} (keyOf : α → Component.Key)
    (hkey : ∀ c, keyOf (f c) = c.key)
    (h : r.components.items.map f = s.components.items.map f) (key : Component.Key) :
    (r.component? key).map f = (s.component? key).map f := by
  have hfind : ∀ t : Registry, (t.component? key).map f =
      (t.components.items.map f).find? fun a => keyOf a = key := by
    intro t
    rw [List.find?_map, component?, Catalog.find?]
    simp only [Function.comp_def, hkey]
  rw [hfind, hfind, h]

/-- **Typed registries** in which the walk sees the same are walked alike. -/
lemma walk_eq_of_visible (hr : r.resolveTypes = r) (hs : s.resolveTypes = s)
    (hpackages : r.packages = s.packages)
    (h : r.components.items.map Component.visible = s.components.items.map Component.visible) :
    r.walk = s.walk := by
  have hvisible := map_component?_congr Prod.fst (fun _ => rfl) h
  have hregistered : ∀ key, (r.component? key).isSome = (s.component? key).isSome := by
    intro key
    simpa using congrArg Option.isSome (hvisible key)
  have hlead : ∀ (t : Registry) key, t.leadsToContainer key =
      ((t.package? key.packageId).bind fun _ => (t.component? key).map Component.visible).any
        fun v => v.2.1 = .component := by
    intro t key
    rw [leadsToContainer, target?]
    cases t.package? key.packageId <;> cases t.component? key <;> rfl
  have htargets : r.leadsToContainer = s.leadsToContainer := by
    funext key
    rw [hlead, hlead, hvisible, package?, package?, hpackages]
  refine walk_congr hpackages hregistered (funext fun key => ?_)
  have hedges : ∀ t : Registry, t.resolveTypes = t → t.subPanelEdges key =
      (((t.component? key).map Component.visible).map fun v => t.edgesOf v.2.2).getD [] := by
    intro t ht
    rw [subPanelEdges]
    cases hfound : t.component? key with
    | none => rfl
    | some c => exact subPanelEdges_of_typed ht (component?_eq_some_iff.mp hfound).1
  rw [hedges r hr, hedges s hs, hvisible]
  simp only [edgesOf, htargets]

end Registry

end UiBinding
