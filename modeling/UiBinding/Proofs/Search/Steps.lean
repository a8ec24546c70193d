/-
The steps of a search: what `explore` does with a stack, without the bookkeeping that makes it end.

The loop takes one step for each pending edge.  `Explores` lists the kinds of steps as rules, so
every fact about a search is an induction over its steps.

* `explores_explore`: the loop makes exactly these steps;
* `Explores.visited_eq`: what is visited afterwards is what was visited before and what was found;
* `Explores.nodup_found` and `Explores.not_mem_of_found`: nothing is found twice, nor is anything
  that was visited before;
* `Explores.target_mem` and `Explores.target_mem_of_found`: no pending edge is forgotten, and the
  edges of everything found have been followed;
* `Explores.justified`: everything found hangs by an edge on a place that was known already.
-/
import Mathlib.Tactic
import UiBinding.Resolution.Search

namespace UiBinding.Search

variable {α : Type} {edges : α → List (Edge α)}

/-- The steps of a search: it works off a stack, given the places visited so far, and leaves a
trace. -/
inductive Explores (edges : α → List (Edge α)) : List (Frame α) → List α → Trace α → Prop where
  /-- Nothing is left to do. -/
  | done (visited : List α) : Explores edges [] visited ⟨[], [], visited⟩
  /-- All edges of the innermost place have been followed. -/
  | leave {place : α} {rest : List (Frame α)} {visited : List α} {trace : Trace α}
      (more : Explores edges rest visited trace) :
      Explores edges (⟨place, []⟩ :: rest) visited trace
  /-- An edge to a visited place is passed over. -/
  | skip {place : α} {e : Edge α} {pending : List (Edge α)} {rest : List (Frame α)}
      {visited : List α} {trace : Trace α} (known : e.target ∈ visited)
      (more : Explores edges (⟨place, pending⟩ :: rest) visited trace) :
      Explores edges (⟨place, e :: pending⟩ :: rest) visited trace
  /-- Any other target is marked, reported and searched before the next edge. -/
  | enter {place : α} {e : Edge α} {pending : List (Edge α)} {rest : List (Frame α)}
      {visited : List α} {trace : Trace α} (new : e.target ∉ visited)
      (more : Explores edges (⟨e.target, edges e.target⟩ :: ⟨place, pending⟩ :: rest)
        (e.target :: visited) trace) :
      Explores edges (⟨place, e :: pending⟩ :: rest) visited
        { trace with
          found := ⟨place, e.member, e.target⟩ :: trace.found
          expanded := e.target :: trace.expanded }

/-- The loop makes exactly these steps. -/
lemma explores_explore [DecidableEq α] {root : α} (finite : FinitelyReachable edges root)
    (stack : List (Frame α)) (visited : List α)
    (below : ∀ f ∈ stack, ∀ e ∈ f.pending, Reaches edges root e.target) :
    Explores edges stack visited (explore edges root finite stack visited below) := by
  fun_induction explore edges root finite stack visited below with
  | case1 visited => exact .done visited
  | case2 visited place rest _ _ ih => exact .leave ih
  | case3 visited place e pending rest _ hrest htarget known _ ih => exact .skip known ih
  | case4 visited place e pending rest _ hrest htarget new after _ ih => exact .enter new ih

namespace Explores

variable {stack : List (Frame α)} {visited : List α} {trace : Trace α}

/-- The places visited afterwards: those found, last one in front, and those visited before. -/
lemma visited_eq (h : Explores edges stack visited trace) :
    trace.visited = (trace.found.map Discovery.component).reverse ++ visited := by
  induction h with
  | done visited => rfl
  | leave _ ih => exact ih
  | skip _ _ ih => exact ih
  | enter _ _ ih => simp [ih]

/-- A place is visited afterwards exactly when it was visited before or was found. -/
lemma mem_visited_iff (h : Explores edges stack visited trace) {a : α} :
    a ∈ trace.visited ↔ a ∈ visited ∨ a ∈ trace.found.map Discovery.component := by
  rw [h.visited_eq, List.mem_append, List.mem_reverse, or_comm]

/-- Nothing that was visited before is found. -/
lemma not_mem_of_found (h : Explores edges stack visited trace) :
    ∀ a ∈ trace.found.map Discovery.component, a ∉ visited := by
  induction h with
  | done visited => simp
  | leave _ ih => exact ih
  | skip _ _ ih => exact ih
  | enter new _ ih =>
      intro a ha
      rcases List.mem_cons.mp ha with rfl | ha
      · exact new
      · exact fun hmem => ih a ha (List.mem_cons_of_mem _ hmem)

/-- Nothing is found twice. -/
lemma nodup_found (h : Explores edges stack visited trace) :
    (trace.found.map Discovery.component).Nodup := by
  induction h with
  | done visited => exact List.nodup_nil
  | leave _ ih => exact ih
  | skip _ _ ih => exact ih
  | enter _ more ih =>
      -- the rest of the search begins with the new place visited
      have hfresh := more.not_mem_of_found
      exact List.nodup_cons.mpr ⟨fun hmem => hfresh _ hmem List.mem_cons_self, ih⟩

/-- No pending edge is forgotten: its target is visited afterwards. -/
lemma target_mem (h : Explores edges stack visited trace) :
    ∀ f ∈ stack, ∀ e ∈ f.pending, e.target ∈ trace.visited := by
  induction h with
  | done visited => simp
  | leave _ ih => exact List.forall_mem_cons.mpr ⟨by simp, ih⟩
  | skip known more ih =>
      obtain ⟨hpending, hrest⟩ := List.forall_mem_cons.mp ih
      have hskipped := more.mem_visited_iff.mpr (Or.inl known)
      exact List.forall_mem_cons.mpr ⟨List.forall_mem_cons.mpr ⟨hskipped, hpending⟩, hrest⟩
  | enter _ more ih =>
      obtain ⟨-, hstack⟩ := List.forall_mem_cons.mp ih
      obtain ⟨hpending, hrest⟩ := List.forall_mem_cons.mp hstack
      have hentered := more.mem_visited_iff.mpr (Or.inl List.mem_cons_self)
      exact List.forall_mem_cons.mpr ⟨List.forall_mem_cons.mpr ⟨hentered, hpending⟩, hrest⟩

/-- The edges of everything found have been followed: their targets are visited afterwards. -/
lemma target_mem_of_found (h : Explores edges stack visited trace) :
    ∀ a ∈ trace.found.map Discovery.component, ∀ e ∈ edges a, e.target ∈ trace.visited := by
  induction h with
  | done visited => simp
  | leave _ ih => exact ih
  | skip _ _ ih => exact ih
  | enter _ more ih =>
      intro a ha e he
      rcases List.mem_cons.mp ha with rfl | ha
      · exact more.target_mem _ List.mem_cons_self e he
      · exact ih a ha e he

end Explores

/-! ### Justified lists -/

/-- Every discovery of a list hangs by an edge on a place that is known when the list is read from
front to back.  `known` holds the places known at first. -/
def Justified (edges : α → List (Edge α)) (known : List α) : List (Discovery α) → Prop
  | [] => True
  | d :: rest =>
    ⟨d.member, d.component⟩ ∈ edges d.parent ∧ d.parent ∈ known ∧
      Justified edges (d.component :: known) rest

/-- A list stays justified if more is known at first. -/
lemma Justified.mono {known more : List α} {found : List (Discovery α)}
    (h : Justified edges known found) (hsub : known ⊆ more) : Justified edges more found := by
  induction found generalizing known more with
  | nil => trivial
  | cons d rest ih =>
      exact ⟨h.1, hsub h.2.1, ih h.2.2 (List.cons_subset_cons _ hsub)⟩

/-- Two lists justified by the same places are justified one after the other. -/
lemma Justified.append {known : List α} {first second : List (Discovery α)}
    (hfirst : Justified edges known first) (hsecond : Justified edges known second) :
    Justified edges known (first ++ second) := by
  induction first generalizing known with
  | nil => exact hsecond
  | cons d rest ih =>
      exact ⟨hfirst.1, hfirst.2.1,
        ih hfirst.2.2 (hsecond.mono (List.subset_cons_self _ _))⟩

/-- The parent of a discovery is known at first or was found before it. -/
lemma Justified.of_append {known : List α} {before after : List (Discovery α)} {d : Discovery α}
    (h : Justified edges known (before ++ d :: after)) :
    ⟨d.member, d.component⟩ ∈ edges d.parent ∧
      (d.parent ∈ known ∨ d.parent ∈ before.map Discovery.component) := by
  induction before generalizing known with
  | nil => exact ⟨h.1, Or.inl h.2.1⟩
  | cons b rest ih =>
      obtain ⟨hedge, hparent⟩ := ih h.2.2
      refine ⟨hedge, ?_⟩
      rw [List.map_cons, List.mem_cons]
      rcases hparent with hknown | hrest
      · rcases List.mem_cons.mp hknown with hb | hknown
        · exact Or.inr (Or.inl hb)
        · exact Or.inl hknown
      · exact Or.inr (Or.inr hrest)

/-- What a search finds is justified by the places on its stack. -/
lemma Explores.justified {stack : List (Frame α)} {visited : List α} {trace : Trace α}
    (h : Explores edges stack visited trace)
    (hpending : ∀ f ∈ stack, ∀ e ∈ f.pending, e ∈ edges f.place) {known : List α}
    (hknown : ∀ f ∈ stack, f.place ∈ known) : Justified edges known trace.found := by
  induction h generalizing known with
  | done visited => trivial
  | leave _ ih =>
      exact ih (List.forall_mem_cons.mp hpending).2 (List.forall_mem_cons.mp hknown).2
  | skip _ _ ih =>
      obtain ⟨htop, hrest⟩ := List.forall_mem_cons.mp hpending
      obtain ⟨hplace, hbelow⟩ := List.forall_mem_cons.mp hknown
      exact ih (List.forall_mem_cons.mpr ⟨(List.forall_mem_cons.mp htop).2, hrest⟩)
        (List.forall_mem_cons.mpr ⟨hplace, hbelow⟩)
  | enter _ _ ih =>
      obtain ⟨htop, hrest⟩ := List.forall_mem_cons.mp hpending
      obtain ⟨hedge, htop⟩ := List.forall_mem_cons.mp htop
      refine ⟨hedge, hknown _ List.mem_cons_self, ih ?_ ?_⟩
      · -- the new frame holds all edges of its place
        exact List.forall_mem_cons.mpr
          ⟨fun e he => he, List.forall_mem_cons.mpr ⟨htop, hrest⟩⟩
      · obtain ⟨hplace, hbelow⟩ := List.forall_mem_cons.mp hknown
        refine List.forall_mem_cons.mpr ⟨List.mem_cons_self, List.forall_mem_cons.mpr ⟨?_, ?_⟩⟩
        · exact List.mem_cons_of_mem _ hplace
        · exact fun f hf => List.mem_cons_of_mem _ (hbelow f hf)

end UiBinding.Search
