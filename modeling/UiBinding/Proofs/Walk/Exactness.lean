/-
Exactness of the walk: the sub-panels are what the root panels lead to, each of them once.

The searches from the root panels share their visited places, and none is visited at first, so
together they cover all that the root panels reach (`Covers.mem_iff`).

* `mem_keys_walk_iff`: the sub-panels are the components that one or more edges lead to from a
  root panel;
* `walk_exact`: none of them is listed twice, and each hangs by an edge on a root panel or on a
  sub-panel that is listed before it.
-/
import UiBinding.Proofs.Search.Coverage
import UiBinding.Resolution.Walk

namespace UiBinding.Registry

open Search

/-- The discoveries of the searches from all root panels. -/
def discoveries (r : Registry) : List (Discovery Component.Key) :=
  (searchAll r.subPanelEdges r.finitelyReachable_subPanelEdges
    (r.rootPanels.map RootPanel.component) []).flatMap Trace.found

/-- The sub-panels are the discoveries with the names of their packages. -/
lemma subPanels_walk (r : Registry) : r.walk.subPanels = r.discoveries.map r.subPanel := rfl

/-- The keys of the sub-panels are the places discovered. -/
lemma keys_walk (r : Registry) : r.walk.keys = r.discoveries.map Discovery.component := by
  rw [Walk.keys, subPanels_walk, List.map_map]
  rfl

/-- The discoveries cover what the root panels reach. -/
lemma covers_discoveries (r : Registry) :
    Covers r.subPanelEdges (r.rootPanels.map RootPanel.component) [] r.discoveries :=
  covers_searchAll _ _ _

/-- A component is a sub-panel exactly when one or more edges lead to it from a root panel. -/
lemma mem_keys_walk_iff (r : Registry) {key : Component.Key} :
    key ∈ r.walk.keys ↔ ∃ panel ∈ r.rootPanels, Reaches r.subPanelEdges panel.component key := by
  rw [keys_walk, r.covers_discoveries.mem_iff, leadsOutside_nil]
  constructor
  · rintro ⟨root, hroot, hpath⟩
    obtain ⟨panel, hpanel, rfl⟩ := List.mem_map.mp hroot
    exact ⟨panel, hpanel, hpath⟩
  · rintro ⟨panel, hpanel, hpath⟩
    exact ⟨panel.component, List.mem_map_of_mem hpanel, hpath⟩

/-- **Exactness of the walk**: the sub-panels are the components that one or more edges lead to from
a root panel, none is listed twice, and each hangs by an edge on a root panel or on a sub-panel
listed before it. -/
theorem walk_exact (r : Registry) :
    r.walk.keys.Nodup ∧
    (∀ key, key ∈ r.walk.keys ↔
      ∃ panel ∈ r.walk.panels, Reaches r.subPanelEdges panel.component key) ∧
    ∀ before s after, r.walk.subPanels = before ++ s :: after →
      ⟨s.member, s.component⟩ ∈ r.subPanelEdges s.parent ∧
        (s.parent ∈ r.walk.panels.map RootPanel.component ∨
          s.parent ∈ before.map SubPanel.component) := by
  refine ⟨?_, fun key => r.mem_keys_walk_iff, fun before s after hsplit => ?_⟩
  · rw [keys_walk]
    exact r.covers_discoveries.nodup
  · -- the rows stand in the order of the discoveries
    rw [subPanels_walk] at hsplit
    obtain ⟨first, rest, hfound, hbefore, hrest⟩ := List.map_eq_append_iff.mp hsplit
    obtain ⟨d, second, rfl, hd, -⟩ := List.map_eq_cons_iff.mp hrest
    have hjustified := r.covers_discoveries.justified
    rw [hfound] at hjustified
    obtain ⟨hedge, hparent⟩ := hjustified.of_append
    subst hd hbefore
    refine ⟨hedge, hparent.imp_right fun hearlier => ?_⟩
    rw [List.map_map]
    exact hearlier

end UiBinding.Registry
