/-
The search as a recursion: what the loop over a stack of half-followed places comes to.

To visit a place is to follow its edges in order; the target of an edge, unless it is visited, is
marked, reported and visited before the next edge.  A stack says the same from the inside out: its
innermost frame is a place whose remaining edges are followed first, then the frame below it goes
on.  So the loop works off a stack frame by frame, each as the recursion does.

* `visitEdges` follows some edges of a place, and `visit` all of them;
* `explores_visitEdges`: the loop follows what is pending in its innermost frame as the recursion
  does, and then has the other frames left;
* `Explores.unique`: the steps of the loop lead to one trace only;
* `depthFirst_eq_visit`: so the search finds and marks what the recursion does, in the same order.
-/
import UiBinding.Proofs.Search.Coverage

namespace UiBinding.Search

variable {α : Type} {edges : α → List (Edge α)}

/-! ### The recursion -/

/-- What a recursive search brings back that began with some places visited. -/
structure Visit (before : List α) where
  /-- The places found, in the order in which they were found. -/
  found : List (Discovery α)
  /-- The places that count as visited afterwards. -/
  visited : List α
  /-- No place ceases to be visited. -/
  kept : before ⊆ visited

section

variable [DecidableEq α]

/-- The more is visited, the fewer entries of a list are left. -/
lemma unvisited_anti {bound visited more : List α} (h : visited ⊆ more) :
    unvisited bound more ≤ unvisited bound visited := by
  refine (List.monotone_filter_right bound fun a ha => ?_).length_le
  rw [decide_eq_true_eq] at ha ⊢
  exact fun hvisited => ha (h hvisited)

/-- Follows edges of a place in order.  The target of an edge, unless it is visited, is marked,
reported and visited in turn before the next edge is followed. -/
def visitEdges (edges : α → List (Edge α)) (root : α) (finite : FinitelyReachable edges root)
    (place : α) (pending : List (Edge α)) (visited : List α)
    (below : ∀ e ∈ pending, Reaches edges root e.target) : Visit visited :=
  match pending with
  | [] => ⟨[], visited, List.Subset.refl _⟩
  | e :: rest =>
    have hrest : ∀ e' ∈ rest, Reaches edges root e'.target := (List.forall_mem_cons.mp below).2
    have htarget : Reaches edges root e.target := (List.forall_mem_cons.mp below).1
    if _hvisited : e.target ∈ visited then
      visitEdges edges root finite place rest visited hrest
    else
      let inner := visitEdges edges root finite e.target (edges e.target) (e.target :: visited)
        fun _ he => htarget.step he
      let outer := visitEdges edges root finite place rest inner.visited hrest
      { found := ⟨place, e.member, e.target⟩ :: (inner.found ++ outer.found)
        visited := outer.visited
        kept := List.Subset.trans (List.subset_of_cons_subset inner.kept) outer.kept }
termination_by (unvisited finite.choose visited, pending.length)
decreasing_by
  · exact Prod.Lex.right _ (by simp)
  · exact Prod.Lex.left _ _ (unvisited_cons_lt (finite.choose_spec _ htarget) _hvisited)
  · -- the inner visit has left no more unvisited than there were when it began
    refine Prod.Lex.left _ _ (Nat.lt_of_le_of_lt (unvisited_anti inner.kept) ?_)
    exact unvisited_cons_lt (finite.choose_spec _ htarget) _hvisited

/-- Visits the root: follows all its edges.  The root itself is not marked. -/
def visit (edges : α → List (Edge α)) (root : α) (finite : FinitelyReachable edges root)
    (visited : List α) : Visit visited :=
  visitEdges edges root finite root (edges root) visited fun _ he => reaches_of_mem he

/-! ### The loop follows the recursion -/

/-- The loop follows what is pending in its innermost frame as the recursion does, and then has the
other frames left. -/
lemma explores_visitEdges {root : α} (finite : FinitelyReachable edges root) (place : α)
    (pending : List (Edge α)) (visited : List α)
    (below : ∀ e ∈ pending, Reaches edges root e.target) {rest : List (Frame α)} {trace : Trace α}
    (more : Explores edges rest (visitEdges edges root finite place pending visited below).visited
      trace) :
    Explores edges (⟨place, pending⟩ :: rest) visited
      { trace with
        found := (visitEdges edges root finite place pending visited below).found ++ trace.found
        expanded := (visitEdges edges root finite place pending visited below).found.map
          Discovery.component ++ trace.expanded } := by
  fun_induction visitEdges edges root finite place pending visited below
    generalizing rest trace with
  | case1 place visited => exact .leave more
  | case2 place visited e pending _ _ _ known _ ih => exact .skip known (ih more)
  | case3 place visited e pending _ _ _ new inner outer _ hinner _ =>
      rename_i houter _
      -- the frame of the target is worked off first, then what is left of this one
      have hboth := hinner (houter more)
      simp only [List.cons_append, List.map_cons, List.append_assoc, List.map_append]
      exact .enter new hboth

end

/-- The steps of the loop lead to one trace only. -/
lemma Explores.unique {stack : List (Frame α)} {visited : List α} {trace other : Trace α}
    (h : Explores edges stack visited trace) (hother : Explores edges stack visited other) :
    trace = other := by
  induction h generalizing other with
  | done visited =>
      cases hother
      rfl
  | leave _ ih =>
      cases hother with
      | leave more => exact ih more
  | skip known _ ih =>
      cases hother with
      | skip _ more => exact ih more
      | enter new _ => exact absurd known new
  | enter new _ ih =>
      cases hother with
      | skip known _ => exact absurd known new
      | enter _ more => rw [ih more]

/-- **The search is the recursion**: the loop over a stack finds the same places by the same edges
in the same order, and leaves the same places visited. -/
theorem depthFirst_eq_visit [DecidableEq α] (edges : α → List (Edge α)) (root : α)
    (finite : FinitelyReachable edges root) (visited : List α) :
    (depthFirst edges root finite visited).found = (visit edges root finite visited).found ∧
    (depthFirst edges root finite visited).visited = (visit edges root finite visited).visited := by
  obtain ⟨trace, hsteps, hfound, hvisited⟩ := explores_depthFirst finite visited
  -- under the frame of the root there is no other one
  have hrecursion := explores_visitEdges finite root (edges root) visited
    (fun _ he => reaches_of_mem he) (.done _)
  rw [hfound, hvisited, hsteps.unique hrecursion]
  exact ⟨List.append_nil _, rfl⟩

/-- The recursion and the loop on the tangle: the root is found again, and what is visited at first
is passed over. -/
theorem depthFirst_eq_visit_tangle :
    FinitelyReachable (edgesFrom tangle) "a" ∧
    (depthFirst (edgesFrom tangle) "a" (finitelyReachable_edgesFrom tangle "a") ["d"]).found =
      [⟨"a", "left", "b"⟩, ⟨"b", "back", "a"⟩, ⟨"a", "right", "c"⟩, ⟨"c", "deep", "e"⟩] ∧
    (visit (edgesFrom tangle) "a" (finitelyReachable_edgesFrom tangle "a") ["d"]).found =
      [⟨"a", "left", "b"⟩, ⟨"b", "back", "a"⟩, ⟨"a", "right", "c"⟩, ⟨"c", "deep", "e"⟩] ∧
    (depthFirst (edgesFrom tangle) "a" (finitelyReachable_edgesFrom tangle "a") ["d"]).visited =
      (visit (edgesFrom tangle) "a" (finitelyReachable_edgesFrom tangle "a") ["d"]).visited := by
  have hfound : (visit (edgesFrom tangle) "a" (finitelyReachable_edgesFrom tangle "a")
      ["d"]).found =
      [⟨"a", "left", "b"⟩, ⟨"b", "back", "a"⟩, ⟨"a", "right", "c"⟩, ⟨"c", "deep", "e"⟩] := by cbv
  obtain ⟨hsame, hvisited⟩ := depthFirst_eq_visit (edgesFrom tangle) "a"
    (finitelyReachable_edgesFrom tangle "a") ["d"]
  exact ⟨finitelyReachable_edgesFrom tangle "a", hsame.trans hfound, hfound, hvisited⟩

end UiBinding.Search
