/-
Coverage: what searches from several roots find together.

A search passes over what is visited, so what it finds depends on the searches before it.  Read
together, the searches from a list of roots find what the roots reach without stepping on a place
that was visited at first.

* `Covers` is what is known of the discoveries made from a list of roots;
* `covers_depthFirst` is one search, `Covers.append` one search after others, and
  `covers_searchAll` all of them;
* `Covers.mem_iff`: exactly the places are found that a root reaches by a path that avoids the
  places visited at first;
* `exists_own_search` finds the search of one root among those of all;
* `depthFirst_discovers`: what one search finds, and what is visited after it.
-/
import UiBinding.Proofs.Search.Steps

namespace UiBinding.Search

variable {α : Type} {edges : α → List (Edge α)}

/-- An edge leads from one place to another, which is not among the places to be avoided. -/
def LeadsOutside (edges : α → List (Edge α)) (avoided : List α) (a b : α) : Prop :=
  Leads edges a b ∧ b ∉ avoided

/-- If every known place is a root or reached from one, so is all that the known places justify. -/
lemma Justified.reached {roots avoided known : List α} {found : List (Discovery α)}
    (h : Justified edges known found)
    (hfresh : ∀ a ∈ found.map Discovery.component, a ∉ avoided)
    (hknown : ∀ a ∈ known, a ∈ roots ∨
      ∃ root ∈ roots, Relation.TransGen (LeadsOutside edges avoided) root a) :
    ∀ a ∈ found.map Discovery.component,
      ∃ root ∈ roots, Relation.TransGen (LeadsOutside edges avoided) root a := by
  induction found generalizing known with
  | nil => simp
  | cons d rest ih =>
      obtain ⟨hedge, hparent, hrest⟩ := h
      obtain ⟨hnew, hfresh⟩ := List.forall_mem_cons.mp hfresh
      have hstep : LeadsOutside edges avoided d.parent d.component := ⟨⟨_, hedge, rfl⟩, hnew⟩
      have hd : ∃ root ∈ roots,
          Relation.TransGen (LeadsOutside edges avoided) root d.component := by
        rcases hknown d.parent hparent with hroot | ⟨root, hroot, hpath⟩
        · exact ⟨d.parent, hroot, .single hstep⟩
        · exact ⟨root, hroot, .tail hpath hstep⟩
      refine List.forall_mem_cons.mpr ⟨hd, ih hrest hfresh ?_⟩
      exact List.forall_mem_cons.mpr ⟨Or.inr hd, hknown⟩

/-- What is known of the discoveries made from a list of roots when some places count as visited at
first. -/
structure Covers (edges : α → List (Edge α)) (roots visited : List α)
    (found : List (Discovery α)) : Prop where
  nodup : (found.map Discovery.component).Nodup
  fresh : ∀ a ∈ found.map Discovery.component, a ∉ visited
  justified : Justified edges roots found
  of_root : ∀ a ∈ roots, ∀ e ∈ edges a,
    e.target ∈ visited ∨ e.target ∈ found.map Discovery.component
  of_found : ∀ a ∈ found.map Discovery.component, ∀ e ∈ edges a,
    e.target ∈ visited ∨ e.target ∈ found.map Discovery.component

namespace Covers

variable {roots visited : List α} {found : List (Discovery α)}

/-- From no root nothing is found. -/
lemma nil (edges : α → List (Edge α)) (visited : List α) : Covers edges [] visited [] :=
  ⟨List.nodup_nil, by simp, trivial, by simp, by simp⟩

/-- A search followed by searches for which its discoveries count as visited too. -/
lemma append {root : α} {first second : List (Discovery α)}
    (hfirst : Covers edges [root] visited first)
    (hsecond : Covers edges roots ((first.map Discovery.component).reverse ++ visited) second) :
    Covers edges (root :: roots) visited (first ++ second) := by
  have hmem : ∀ b, b ∈ (first.map Discovery.component).reverse ++ visited ↔
      b ∈ first.map Discovery.component ∨ b ∈ visited := fun b => by
    rw [List.mem_append, List.mem_reverse]
  -- what the first search leaves open is settled by it, the rest by the second
  have hearly : ∀ b, b ∈ visited ∨ b ∈ first.map Discovery.component →
      b ∈ visited ∨ b ∈ (first ++ second).map Discovery.component := by
    intro b hb
    rw [List.map_append, List.mem_append]
    exact hb.imp_right Or.inl
  have hlate : ∀ b, b ∈ (first.map Discovery.component).reverse ++ visited ∨
      b ∈ second.map Discovery.component →
      b ∈ visited ∨ b ∈ (first ++ second).map Discovery.component := by
    intro b hb
    rw [hmem] at hb
    rw [List.map_append, List.mem_append]
    tauto
  refine ⟨?_, ?_, ?_, ?_, ?_⟩
  · rw [List.map_append]
    refine List.nodup_append.mpr ⟨hfirst.nodup, hsecond.nodup, fun a ha b hb hab => ?_⟩
    exact hsecond.fresh b hb ((hmem b).mpr (Or.inl (hab ▸ ha)))
  · intro a ha
    rw [List.map_append, List.mem_append] at ha
    rcases ha with ha | ha
    · exact hfirst.fresh a ha
    · exact fun hvisited => hsecond.fresh a ha ((hmem a).mpr (Or.inr hvisited))
  · exact (hfirst.justified.mono (by simp)).append
      (hsecond.justified.mono (List.subset_cons_self _ _))
  · intro a ha e he
    rcases List.mem_cons.mp ha with rfl | ha
    · exact hearly _ (hfirst.of_root a (List.mem_singleton_self a) e he)
    · exact hlate _ (hsecond.of_root a ha e he)
  · intro a ha e he
    rw [List.map_append, List.mem_append] at ha
    rcases ha with ha | ha
    · exact hearly _ (hfirst.of_found a ha e he)
    · exact hlate _ (hsecond.of_found a ha e he)

/-- What is found is reached from a root by a path that avoids what was visited at first. -/
lemma reached (h : Covers edges roots visited found) :
    ∀ a ∈ found.map Discovery.component,
      ∃ root ∈ roots, Relation.TransGen (LeadsOutside edges visited) root a :=
  h.justified.reached h.fresh fun _ hroot => Or.inl hroot

/-- **Exactly what a root reaches outside the places visited at first is found.** -/
lemma mem_iff (h : Covers edges roots visited found) {a : α} :
    a ∈ found.map Discovery.component ↔
      ∃ root ∈ roots, Relation.TransGen (LeadsOutside edges visited) root a := by
  refine ⟨h.reached a, ?_⟩
  rintro ⟨root, hroot, hpath⟩
  induction hpath with
  | single hstep =>
      obtain ⟨⟨e, he, rfl⟩, hnew⟩ := hstep
      exact (h.of_root root hroot e he).resolve_left hnew
  | tail _ hstep ih =>
      obtain ⟨⟨e, he, rfl⟩, hnew⟩ := hstep
      exact (h.of_found _ ih e he).resolve_left hnew

end Covers

/-- If no place is to be avoided, a path is any path. -/
lemma leadsOutside_nil : LeadsOutside edges [] = Leads edges := by
  funext a b
  simp [LeadsOutside]

variable [DecidableEq α]

/-- The steps of one search. -/
lemma explores_depthFirst {root : α} (finite : FinitelyReachable edges root)
    (visited : List α) : ∃ trace : Trace α, Explores edges [⟨root, edges root⟩] visited trace ∧
      (depthFirst edges root finite visited).found = trace.found ∧
      (depthFirst edges root finite visited).visited = trace.visited :=
  ⟨_, explores_explore finite _ visited _, rfl, rfl⟩

/-- The places visited after a search from one root. -/
lemma visited_depthFirst {root : α} (finite : FinitelyReachable edges root) (visited : List α) :
    (depthFirst edges root finite visited).visited =
      ((depthFirst edges root finite visited).found.map Discovery.component).reverse ++
        visited := by
  obtain ⟨trace, hsteps, hfound, hvisited⟩ := explores_depthFirst finite visited
  rw [hfound, hvisited, hsteps.visited_eq]

/-- A search from one root covers what the root reaches. -/
lemma covers_depthFirst {root : α} (finite : FinitelyReachable edges root) (visited : List α) :
    Covers edges [root] visited (depthFirst edges root finite visited).found := by
  obtain ⟨trace, hsteps, hfound, -⟩ := explores_depthFirst finite visited
  rw [hfound]
  refine ⟨hsteps.nodup_found, hsteps.not_mem_of_found, ?_, ?_, ?_⟩
  · exact hsteps.justified (List.forall_mem_singleton.mpr fun e he => he)
      (List.forall_mem_singleton.mpr (List.mem_singleton_self root))
  · refine List.forall_mem_singleton.mpr fun e he => ?_
    exact hsteps.mem_visited_iff.mp (hsteps.target_mem _ (List.mem_singleton_self _) e he)
  · exact fun a ha e he => hsteps.mem_visited_iff.mp (hsteps.target_mem_of_found a ha e he)

/-- The searches from several roots in turn cover what the roots reach. -/
lemma covers_searchAll (finite : ∀ root, FinitelyReachable edges root) (roots visited : List α) :
    Covers edges roots visited ((searchAll edges finite roots visited).flatMap Trace.found) := by
  induction roots generalizing visited with
  | nil => exact Covers.nil edges visited
  | cons root roots ih =>
      rw [searchAll, List.flatMap_cons]
      refine (covers_depthFirst (finite root) visited).append ?_
      rw [← visited_depthFirst]
      exact ih _

/-- **What one search finds**: nothing twice, and exactly what the root reaches by a path all of
whose places after the root were not visited at first.  That is visited afterwards, with what was
visited at first and nothing else.  Where no edge leaves the visited places, nor leads from the root
to any other place, nothing is found and nothing marked. -/
theorem depthFirst_discovers (edges : α → List (Edge α)) (root : α)
    (finite : FinitelyReachable edges root) (visited : List α) :
    ((depthFirst edges root finite visited).found.map Discovery.component).Nodup ∧
    (∀ a, a ∈ (depthFirst edges root finite visited).found.map Discovery.component ↔
      a ∉ visited ∧ Relation.TransGen (LeadsOutside edges visited) root a) ∧
    (∀ a, a ∈ (depthFirst edges root finite visited).visited ↔
      a ∈ visited ∨ a ∈ (depthFirst edges root finite visited).found.map Discovery.component) ∧
    ((∀ a ∈ visited, ∀ e ∈ edges a, e.target ∈ visited) →
      (∀ e ∈ edges root, e.target ∈ visited) →
      (depthFirst edges root finite visited).found = [] ∧
      (depthFirst edges root finite visited).visited = visited) := by
  have hcovers := covers_depthFirst finite visited
  have hvisited := visited_depthFirst finite visited
  refine ⟨hcovers.nodup, fun a => ?_, fun a => ?_, fun _ htargets => ?_⟩
  · rw [hcovers.mem_iff]
    simp only [List.mem_singleton, exists_eq_left]
    refine ⟨fun hpath => ⟨?_, hpath⟩, fun h => h.2⟩
    obtain ⟨_, _, hlast⟩ := Relation.TransGen.tail'_iff.mp hpath
    exact hlast.2
  · rw [hvisited, List.mem_append, List.mem_reverse, or_comm]
  · -- whatever is found begins with an edge of the root to a place that was not visited
    have hnone : (depthFirst edges root finite visited).found = [] := by
      refine List.eq_nil_iff_forall_not_mem.mpr fun d hd => ?_
      obtain ⟨_, hroot, hpath⟩ := hcovers.reached _ (List.mem_map_of_mem hd)
      obtain rfl := List.mem_singleton.mp hroot
      obtain ⟨_, ⟨⟨e, he, rfl⟩, hnew⟩, _⟩ := Relation.TransGen.head'_iff.mp hpath
      exact hnew (htargets e he)
    rw [hvisited, hnone]
    exact ⟨rfl, rfl⟩

/-- A table of edges with a cycle through `a`, a place that leads to itself, two edges between the
same places, and two ways to `d`. -/
def tangle : List (String × Edge String) :=
  [("a", ⟨"left", "b"⟩), ("a", ⟨"again", "b"⟩), ("a", ⟨"right", "c"⟩), ("b", ⟨"back", "a"⟩),
    ("b", ⟨"self", "b"⟩), ("b", ⟨"down", "d"⟩), ("c", ⟨"down", "d"⟩), ("c", ⟨"deep", "e"⟩),
    ("d", ⟨"up", "f"⟩)]

/-- On the tangle, with `d` visited at first, the root is found again, and `f`, to which only `d`
leads, is not found; with all places visited, nothing is. -/
theorem depthFirst_discovers_tangle :
    FinitelyReachable (edgesFrom tangle) "a" ∧
    (∀ a, a ∈ ["b", "a", "c", "e"] ↔
      a ∉ ["d"] ∧ Relation.TransGen (LeadsOutside (edgesFrom tangle) ["d"]) "a" a) ∧
    (∀ a, a ∈ (depthFirst (edgesFrom tangle) "a" (finitelyReachable_edgesFrom tangle "a")
      ["d"]).visited ↔ a ∈ ["d"] ∨ a ∈ ["b", "a", "c", "e"]) ∧
    (depthFirst (edgesFrom tangle) "a" (finitelyReachable_edgesFrom tangle "a")
      ["a", "b", "c", "d", "e", "f"]).found = [] := by
  have hfound : (depthFirst (edgesFrom tangle) "a" (finitelyReachable_edgesFrom tangle "a")
      ["d"]).found.map Discovery.component = ["b", "a", "c", "e"] := by cbv
  obtain ⟨-, hmem, hvisited, -⟩ := depthFirst_discovers (edgesFrom tangle) "a"
    (finitelyReachable_edgesFrom tangle "a") ["d"]
  obtain ⟨-, -, -, hclosed⟩ := depthFirst_discovers (edgesFrom tangle) "a"
    (finitelyReachable_edgesFrom tangle "a") ["a", "b", "c", "d", "e", "f"]
  rw [hfound] at hmem hvisited
  exact ⟨finitelyReachable_edgesFrom tangle "a", hmem, hvisited,
    (hclosed (by decide) (by decide)).1⟩

end UiBinding.Search
