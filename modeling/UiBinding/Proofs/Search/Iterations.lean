/-
The iterations of a search: how often the loop runs, and whose edges it asks for.

The loop looks at the innermost frame of its stack.  A frame without pending edges is left; an edge
to a visited place is passed over; for any other target the edges are asked for, and a frame with
all of them goes on top of the stack.  Nothing in the loop itself makes it end: a single iteration
may bring many more edges than it takes away.

* `Loop.next?` is one iteration, `Loop.after?` several;
* `after?_of_explores`: the loop makes the steps of the search, one iteration for each;
* `asked_eq_of_after?`: at any time the edges have been asked for of the root and then of what was
  found, in this order;
* `depthFirst_ends`: the loop ends, after how many iterations, and what it has asked for.
-/
import UiBinding.Proofs.Search.Coverage

namespace UiBinding.Search

variable {α : Type}

/-- The state of the loop. -/
structure Loop (α : Type) where
  stack : List (Frame α)
  /-- The places that count as visited, those marked last in front. -/
  visited : List α
  /-- The places found so far, in the order in which they were found. -/
  found : List (Discovery α)
  /-- The places whose edges were asked for, in order. -/
  asked : List α

namespace Loop

/-- Before the first iteration the edges of the root have been asked for. -/
def start (edges : α → List (Edge α)) (root : α) (visited : List α) : Loop α where
  stack := [⟨root, edges root⟩]
  visited := visited
  found := []
  asked := [root]

variable [DecidableEq α]

/-- One iteration; there is none once the stack is empty. -/
def next? (edges : α → List (Edge α)) (s : Loop α) : Option (Loop α) :=
  match s.stack with
  | [] => none
  | ⟨_, []⟩ :: rest => some { s with stack := rest }
  | ⟨place, e :: pending⟩ :: rest =>
    if e.target ∈ s.visited then some { s with stack := ⟨place, pending⟩ :: rest }
    else
      some
        { stack := ⟨e.target, edges e.target⟩ :: ⟨place, pending⟩ :: rest
          visited := e.target :: s.visited
          found := s.found ++ [⟨place, e.member, e.target⟩]
          asked := s.asked ++ [e.target] }

/-- The state after a number of iterations, if the loop makes so many. -/
def after? (edges : α → List (Edge α)) (s : Loop α) : ℕ → Option (Loop α)
  | 0 => some s
  | n + 1 => (s.next? edges).bind fun t => t.after? edges n

end Loop

variable [DecidableEq α] {edges : α → List (Edge α)}

/-! ### What was asked for -/

namespace Loop

/-- An iteration finds nothing and asks for nothing, or finds a place and asks for its edges. -/
lemma next?_cases {s t : Loop α} (h : s.next? edges = some t) :
    t.found = s.found ∧ t.asked = s.asked ∨
      ∃ d : Discovery α, t.found = s.found ++ [d] ∧ t.asked = s.asked ++ [d.component] := by
  unfold next? at h
  split at h
  · cases h
  · cases h
    exact Or.inl ⟨rfl, rfl⟩
  · split at h
    · cases h
      exact Or.inl ⟨rfl, rfl⟩
    · cases h
      exact Or.inr ⟨_, rfl, rfl⟩

/-- An iteration keeps it that the edges have been asked for of the root and of what was found. -/
lemma asked_eq_of_next? {root : α} {s t : Loop α} (h : s.next? edges = some t)
    (hs : s.asked = root :: s.found.map Discovery.component) :
    t.asked = root :: t.found.map Discovery.component := by
  obtain ⟨hfound, hasked⟩ | ⟨d, hfound, hasked⟩ := next?_cases h
  · rw [hfound, hasked, hs]
  · rw [hfound, hasked, hs, List.map_append, List.map_singleton, List.cons_append]

/-- Any number of iterations keeps it. -/
lemma asked_eq_of_after? {root : α} {s t : Loop α} {n : ℕ} (h : s.after? edges n = some t)
    (hs : s.asked = root :: s.found.map Discovery.component) :
    t.asked = root :: t.found.map Discovery.component := by
  induction n generalizing s with
  | zero =>
      cases h
      exact hs
  | succ n ih =>
      obtain ⟨u, hu, hrest⟩ := Option.bind_eq_some_iff.mp h
      exact ih hrest (asked_eq_of_next? hu hs)

end Loop

/-! ### How often the loop runs -/

/-- The iterations that are made for places once their edges have been asked for: one for each edge,
and one to leave the place. -/
def iterations (edges : α → List (Edge α)) (asked : List α) : ℕ :=
  (asked.map fun a => (edges a).length + 1).sum

omit [DecidableEq α] in
@[simp]
lemma iterations_cons (a : α) (asked : List α) :
    iterations edges (a :: asked) = (edges a).length + 1 + iterations edges asked := by
  rw [iterations, List.map_cons, List.sum_cons, iterations]

/-- **The loop makes the steps of the search**, one iteration for each: those that are left on the
stack, and those for the places that are still to be found.  Then the stack is empty. -/
lemma Loop.after?_of_explores {stack : List (Frame α)} {visited : List α} {trace : Trace α}
    (h : Explores edges stack visited trace) (found : List (Discovery α)) (asked : List α) :
    (Loop.mk stack visited found asked).after? edges
        (workLeft stack + iterations edges trace.expanded) =
      some ⟨[], trace.visited, found ++ trace.found, asked ++ trace.expanded⟩ := by
  induction h generalizing found asked with
  | done visited => simp [workLeft, iterations, after?]
  | @leave place rest visited trace _ ih =>
      have hcount : workLeft (⟨place, []⟩ :: rest) + iterations edges trace.expanded =
          workLeft rest + iterations edges trace.expanded + 1 := by
        simp only [workLeft, List.length_nil]
        omega
      rw [hcount, after?]
      exact ih found asked
  | @skip place e pending rest visited trace known _ ih =>
      have hcount : workLeft (⟨place, e :: pending⟩ :: rest) + iterations edges trace.expanded =
          workLeft (⟨place, pending⟩ :: rest) + iterations edges trace.expanded + 1 := by
        simp only [workLeft, List.length_cons]
        omega
      have hnext : (Loop.mk (⟨place, e :: pending⟩ :: rest) visited found asked).next? edges =
          some ⟨⟨place, pending⟩ :: rest, visited, found, asked⟩ := if_pos known
      rw [hcount, after?, hnext]
      exact ih found asked
  | @enter place e pending rest visited trace new _ ih =>
      -- the edges of the target are paid for by the target, which is asked for only here
      have hcount : workLeft (⟨place, e :: pending⟩ :: rest) +
            iterations edges (e.target :: trace.expanded) =
          workLeft (⟨e.target, edges e.target⟩ :: ⟨place, pending⟩ :: rest) +
            iterations edges trace.expanded + 1 := by
        simp only [workLeft, List.length_cons, iterations_cons]
        omega
      have hnext : (Loop.mk (⟨place, e :: pending⟩ :: rest) visited found asked).next? edges =
          some ⟨⟨e.target, edges e.target⟩ :: ⟨place, pending⟩ :: rest, e.target :: visited,
            found ++ [⟨place, e.member, e.target⟩], asked ++ [e.target]⟩ := if_neg new
      rw [hcount, after?, hnext, Option.bind_some, ih, List.append_assoc, List.append_assoc]
      rfl

/-- **The search ends**, and asks for the edges of the root first and then of each place it has
found, in the order in which they were found.  The loop makes one iteration for each edge it was
given and one for each time it asked, and then has an empty stack and what the search brings back.
So no place is asked for twice but the root, and the root only if it is found again. -/
theorem depthFirst_ends (edges : α → List (Edge α)) (root : α)
    (finite : FinitelyReachable edges root) (visited : List α) :
    let trace := depthFirst edges root finite visited
    let last : Loop α := ⟨[], trace.visited, trace.found, trace.expanded⟩
    (Loop.start edges root visited).after? edges (iterations edges trace.expanded) = some last ∧
    last.next? edges = none ∧
    (∀ n s, (Loop.start edges root visited).after? edges n = some s →
      s.asked = root :: s.found.map Discovery.component) ∧
    trace.expanded = root :: trace.found.map Discovery.component ∧
    ∀ a, trace.expanded.count a =
      (if a = root then 1 else 0) + if a ∈ trace.found.map Discovery.component then 1 else 0 := by
  intro trace last
  have hends : (Loop.start edges root visited).after? edges (iterations edges trace.expanded) =
      some last := by
    have hsteps := explores_explore finite [⟨root, edges root⟩] visited
      (List.forall_mem_singleton.mpr fun e he => reaches_of_mem he)
    have hloop := Loop.after?_of_explores hsteps [] [root]
    rw [workLeft, workLeft, Nat.add_zero, ← iterations_cons] at hloop
    exact hloop
  have hasked : ∀ n s, (Loop.start edges root visited).after? edges n = some s →
      s.asked = root :: s.found.map Discovery.component :=
    fun n s h => Loop.asked_eq_of_after? h rfl
  have hexpanded : trace.expanded = root :: trace.found.map Discovery.component :=
    hasked _ last hends
  refine ⟨hends, rfl, hasked, hexpanded, fun a => ?_⟩
  have hnodup : (trace.found.map Discovery.component).Nodup :=
    (covers_depthFirst finite visited).nodup
  rw [hexpanded, List.count_cons, hnodup.count, Nat.add_comm]
  simp only [beq_iff_eq, eq_comm (a := root)]

/-- On the tangle, with `d` visited at first, the loop makes sixteen iterations, and asks for the
edges of `a` twice, as `a` is found again. -/
theorem depthFirst_ends_tangle :
    FinitelyReachable (edgesFrom tangle) "a" ∧
    ∃ last : Loop String,
      (Loop.start (edgesFrom tangle) "a" ["d"]).after? (edgesFrom tangle) 16 = some last ∧
      last.next? (edgesFrom tangle) = none ∧
      last.asked = ["a", "b", "a", "c", "e"] ∧ last.asked.count "a" = 2 := by
  obtain ⟨hends, hlast, hasked, hexpanded, hcount⟩ := depthFirst_ends (edgesFrom tangle) "a"
    (finitelyReachable_edgesFrom tangle "a") ["d"]
  have hfound : (depthFirst (edgesFrom tangle) "a" (finitelyReachable_edgesFrom tangle "a")
      ["d"]).found.map Discovery.component = ["b", "a", "c", "e"] := by cbv
  rw [hfound] at hexpanded hcount
  refine ⟨finitelyReachable_edgesFrom tangle "a", _, ?_, hlast, hexpanded, hcount "a"⟩
  rw [← hends, hexpanded]
  rfl

end UiBinding.Search
