/-
The walk: which components the root panels lead to.

The edges are the exposed members that refer to registered plain containers.  Every package that
has a root panel is a root, in the order of the packages.

* `Registry.walk` searches from all roots with common visited places, so every sub-panel is listed
  once, under the member by which it was found first;
* `Walk.descendants` gathers the sub-panels that hang below a component.
-/
import UiBinding.Registry
import UiBinding.Resolution.Search

namespace UiBinding

/-- The root panel of a package. -/
structure RootPanel where
  packageId : String
  packageName : String
  component : Component.Key
  deriving DecidableEq, Repr

/-- A component that a root panel leads to, with the member by which it was found. -/
structure SubPanel where
  component : Component.Key
  packageName : String
  parent : Component.Key
  member : String
  deriving DecidableEq, Repr

/-- The root panels and what they lead to. -/
structure Walk where
  panels : List RootPanel
  subPanels : List SubPanel
  deriving DecidableEq, Repr

namespace Walk

/-- The walk that found nothing. -/
def empty : Walk := ⟨[], []⟩

instance : Inhabited Walk := ⟨empty⟩

/-- The keys of the sub-panels. -/
def keys (w : Walk) : List Component.Key := w.subPanels.map SubPanel.component

/-- The sub-panels whose parent is known already when the list is read from front to back.  `known`
holds the components known at first. -/
def below (known : List Component.Key) : List SubPanel → List SubPanel
  | [] => []
  | s :: rest =>
    if s.parent ∈ known then s :: below (s.component :: known) rest else below known rest

/-- The sub-panels that hang below a component. -/
def descendants (w : Walk) (root : Component.Key) : List SubPanel := below [root] w.subPanels

end Walk

/-- The edges that the members of a component make. -/
def Component.subPanelEdges (c : Component) : List (Edge Component.Key) :=
  c.exposedMembers.filterMap fun m =>
    (m.typing?.bind Member.Typing.subPanel?).map fun target => ⟨m.name, target⟩

namespace Registry

/-- The edges from a component; one that is not registered has none. -/
def subPanelEdges (r : Registry) (key : Component.Key) : List (Edge Component.Key) :=
  match r.component? key with
  | some c => c.subPanelEdges
  | none => []

/-- Every edge is made by a registered component, so finitely many components can be reached. -/
theorem finitelyReachable_subPanelEdges (r : Registry) (root : Component.Key) :
    Search.FinitelyReachable r.subPanelEdges root := by
  refine Search.finitelyReachable_of_targets
    (r.components.items.flatMap fun c => c.subPanelEdges.map Edge.target) (fun key e he => ?_) root
  unfold subPanelEdges at he
  split at he
  · next c hc =>
    have hmem := (Catalog.find?_eq_some_iff.mp hc).1
    exact List.mem_flatMap.mpr ⟨c, hmem, List.mem_map_of_mem he⟩
  · cases he

/-- The key of the root panel of a package, if its manifest has an entry for one. -/
def rootPanelKey? (p : Package) : Option Component.Key :=
  p.rootPanel?.map fun entry => ⟨p.id, entry.id⟩

/-- The root panels of the packages.  One whose file could not be read is left out. -/
def rootPanels (r : Registry) : List RootPanel :=
  r.packages.items.filterMap fun p =>
    ((rootPanelKey? p).filter fun key => (r.component? key).isSome).map fun key =>
      ⟨p.id, p.name, key⟩

/-- The sub-panel that was found. -/
def subPanel (r : Registry) (d : Discovery Component.Key) : SubPanel :=
  ⟨d.component, r.packageName d.component.packageId, d.parent, d.member⟩

/-- Walks from all root panels. -/
def walk (r : Registry) : Walk :=
  let traces := Search.searchAll r.subPanelEdges r.finitelyReachable_subPanelEdges
    (r.rootPanels.map RootPanel.component) []
  ⟨r.rootPanels, (traces.flatMap Search.Trace.found).map r.subPanel⟩

end Registry

end UiBinding
