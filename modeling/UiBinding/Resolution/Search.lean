/-
Depth-first search along labelled edges.

The search starts from a root and is told which places count as visited.  An edge to a visited
place is passed over.  Every other target is marked, reported, and searched before the next edge of
the place it was reached from.  The root itself is not marked; it is reported when an edge leads
back to it.

* `Reaches` is the relation that one or more edges lead from one place to another;
* `FinitelyReachable` is what makes the search end;
* `depthFirst` is the search from one root, `searchAll` from several roots in turn, with the
  visited places of one handed to the next.
-/

namespace UiBinding

/-- An edge to a target, labelled with the member that makes it. -/
structure Edge (α : Type) where
  member : String
  target : α
  deriving DecidableEq, Repr

/-- A place that was found, with the edge it was found by. -/
structure Discovery (α : Type) where
  parent : α
  member : String
  component : α
  deriving DecidableEq, Repr

namespace Search

variable {α : Type}

/-- An edge leads from one place to another. -/
def Leads (edges : α → List (Edge α)) (a b : α) : Prop := ∃ e ∈ edges a, e.target = b

/-- One or more edges lead from one place to another. -/
def Reaches (edges : α → List (Edge α)) : α → α → Prop := Relation.TransGen (Leads edges)

/-- Only finitely many places can be reached. -/
def FinitelyReachable (edges : α → List (Edge α)) (root : α) : Prop :=
  ∃ bound : List α, ∀ a, Reaches edges root a → a ∈ bound

/-- One edge is enough to reach its target. -/
theorem reaches_of_mem {edges : α → List (Edge α)} {a : α} {e : Edge α} (h : e ∈ edges a) :
    Reaches edges a e.target := .single ⟨e, h, rfl⟩

/-- What is reached can be left by one edge more. -/
theorem Reaches.step {edges : α → List (Edge α)} {a b : α} {e : Edge α} (h : Reaches edges a b)
    (he : e ∈ edges b) : Reaches edges a e.target := .tail h ⟨e, he, rfl⟩

/-- If all targets lie in a list, finitely many places can be reached. -/
theorem finitelyReachable_of_targets {edges : α → List (Edge α)} (bound : List α)
    (h : ∀ a, ∀ e ∈ edges a, e.target ∈ bound) (root : α) : FinitelyReachable edges root := by
  refine ⟨bound, fun a ha => ?_⟩
  cases ha with
  | single hlead => obtain ⟨e, he, rfl⟩ := hlead; exact h _ e he
  | tail _ hlead => obtain ⟨e, he, rfl⟩ := hlead; exact h _ e he

/-- The edges from a place in a table of edges. -/
def edgesFrom [DecidableEq α] (table : List (α × Edge α)) (a : α) : List (Edge α) :=
  table.filterMap fun row => if row.1 = a then some row.2 else none

/-- In a table of edges finitely many places can be reached. -/
theorem finitelyReachable_edgesFrom [DecidableEq α] (table : List (α × Edge α)) (root : α) :
    FinitelyReachable (edgesFrom table) root := by
  refine finitelyReachable_of_targets (table.map fun row => row.2.target) (fun a e he => ?_) root
  obtain ⟨row, hrow, heq⟩ := List.mem_filterMap.mp he
  split at heq
  · exact List.mem_map.mpr ⟨row, hrow, by rw [Option.some.inj heq]⟩
  · cases heq

/-! ### The search -/

/-- A place whose edges are being followed, with the edges that are still to come. -/
structure Frame (α : Type) where
  place : α
  pending : List (Edge α)

/-- What a search has done. -/
structure Trace (α : Type) where
  /-- The places found, in the order in which they were found. -/
  found : List (Discovery α)
  /-- The places whose edges were asked for, in order. -/
  expanded : List α
  /-- The places that count as visited afterwards, those marked last in front. -/
  visited : List α

/-- The work on a stack that is left if no further place is found. -/
def workLeft : List (Frame α) → Nat
  | [] => 0
  | f :: rest => f.pending.length + 1 + workLeft rest

variable [DecidableEq α]

/-- The number of entries of a list that are not visited. -/
def unvisited (bound visited : List α) : Nat := (bound.filter fun a => a ∉ visited).length

/-- Marking an entry of the list leaves fewer. -/
theorem unvisited_cons_lt {bound visited : List α} {a : α} (hmem : a ∈ bound)
    (hnew : a ∉ visited) : unvisited bound (a :: visited) < unvisited bound visited := by
  have hsplit : (bound.filter fun b => b ∉ a :: visited) =
      (bound.filter fun b => b ∉ visited).filter fun b => b ≠ a := by
    rw [List.filter_filter]
    refine List.filter_congr fun b _ => ?_
    by_cases hb : b = a <;> simp [hb]
  have hold : a ∈ bound.filter fun b => b ∉ visited := by simp [hmem, hnew]
  unfold unvisited
  rw [hsplit]
  refine Nat.lt_of_le_of_ne (List.length_filter_le _ _) fun heq => ?_
  have hall := List.length_filter_eq_length_iff.mp heq a hold
  simp at hall

/-- Works off a stack of places.  The pending edges all lead to places that the root reaches. -/
def explore (edges : α → List (Edge α)) (root : α) (finite : FinitelyReachable edges root)
    (stack : List (Frame α)) (visited : List α)
    (below : ∀ f ∈ stack, ∀ e ∈ f.pending, Reaches edges root e.target) : Trace α :=
  match stack with
  | [] => ⟨[], [], visited⟩
  | ⟨_, []⟩ :: rest =>
    explore edges root finite rest visited fun f hf => below f (List.mem_cons_of_mem _ hf)
  | ⟨place, e :: pending⟩ :: rest =>
    have hrest : ∀ f ∈ (⟨place, pending⟩ : Frame α) :: rest, ∀ e' ∈ f.pending,
        Reaches edges root e'.target := fun f hf e' he' => by
      rcases List.mem_cons.mp hf with rfl | hf
      · exact below _ List.mem_cons_self e' (List.mem_cons_of_mem _ he')
      · exact below f (List.mem_cons_of_mem _ hf) e' he'
    have htarget : Reaches edges root e.target := below _ List.mem_cons_self e List.mem_cons_self
    if hvisited : e.target ∈ visited then
      explore edges root finite (⟨place, pending⟩ :: rest) visited hrest
    else
      let after := explore edges root finite
        (⟨e.target, edges e.target⟩ :: ⟨place, pending⟩ :: rest) (e.target :: visited)
        fun f hf e' he' => by
          rcases List.mem_cons.mp hf with rfl | hf
          · exact htarget.step he'
          · exact hrest f hf e' he'
      { after with
        found := ⟨place, e.member, e.target⟩ :: after.found
        expanded := e.target :: after.expanded }
termination_by (unvisited finite.choose visited, workLeft stack)
decreasing_by
  · exact Prod.Lex.right _ (by simp [workLeft])
  · exact Prod.Lex.right _ (by simp [workLeft])
  · exact Prod.Lex.left _ _ (unvisited_cons_lt (finite.choose_spec _ htarget) hvisited)

/-- Searches from a root. -/
def depthFirst (edges : α → List (Edge α)) (root : α) (finite : FinitelyReachable edges root)
    (visited : List α) : Trace α :=
  let after := explore edges root finite [⟨root, edges root⟩] visited fun f hf e he => by
    rw [List.mem_singleton] at hf
    subst hf
    exact reaches_of_mem he
  { after with expanded := root :: after.expanded }

/-- Searches from several roots in turn. -/
def searchAll (edges : α → List (Edge α)) (finite : ∀ root, FinitelyReachable edges root) :
    List α → List α → List (Trace α)
  | [], _ => []
  | root :: roots, visited =>
    let trace := depthFirst edges root (finite root) visited
    trace :: searchAll edges finite roots trace.visited

end Search

end UiBinding
