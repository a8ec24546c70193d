/-
Runs: what a registry keeps through whatever is done with it.

A registry is filled step by step, and the passes may be made over it at any time and in any order.
A step that is refused leaves it as it was.  Every other step enters a package with a new
identifier, enters a component, notes a problem, or changes components in their places; so what was
registered before stays where it was.  In the tables with the keys beside the rows, a step is a list
of writes, and the rows stay under the keys of what they hold.

* `Registry.Step` is something done with a registry, `after` the registry afterwards, and `run` the
  registry after a list of steps from an empty one;
* `after_cases`: all that a step can do to a registry;
* `Extends`: nothing was removed or moved, and no package replaced; `extends_after` and
  `extends_foldl_after`: a step extends a registry, and so do several;
* `replay_writes` and `replay_writesOf`: a step, and several of them, as writes;
* `run_keeps`: what holds after every run.
-/
import UiBinding.Proofs.Assets.Outcome
import UiBinding.Proofs.Registry.Tables

namespace UiBinding.Registry

/-- Something that is done with a registry. -/
inductive Step where
  | insertPackage (p : Package)
  | insertComponent (c : Component)
  | warn (problem : Diagnostic)
  /-- Decide which components are exported. -/
  | markExports (requests : ExportRequests) (config : Config)
  | resolveTypes
  | walk
  /-- Export components that root panels lead to, given what is exported so far. -/
  | reachAll (config : Config) (exports : Exports) (keys : List Component.Key)
  /-- Make all passes. -/
  | resolve (requests : ExportRequests) (config : Config)

/-- Does a step.  Only a package may be refused; a walk changes nothing. -/
def perform (r : Registry) : Step → Except Diagnostic Registry
  | .insertPackage p => r.insertPackage p
  | .insertComponent c => .ok (r.insertComponent c)
  | .warn problem => .ok (r.warn problem)
  | .markExports requests config => .ok (r.markExports requests config).registry
  | .resolveTypes => .ok r.resolveTypes
  | .walk => .ok r
  | .reachAll config exports keys =>
    .ok (ExportPass.reachAll config { registry := r, exports := exports } keys).registry
  | .resolve requests config =>
    .ok (Assets.resolve { registry := r, requests := requests } config).registry

/-- The registry after a step; one that is refused leaves it as it was. -/
def after (r : Registry) (s : Step) : Registry :=
  match r.perform s with
  | .ok changed => changed
  | .error _ => r

/-- The registry after steps from an empty one. -/
def run (steps : List Step) : Registry := steps.foldl after empty

lemma run_append (steps more : List Step) : run (steps ++ more) = more.foldl after (run steps) :=
  List.foldl_append

/-! ### What a step can do -/

/-- The registry after a package was offered to it. -/
lemma after_insertPackage (r : Registry) (p : Package) :
    r.after (.insertPackage p) =
      if p.id ∈ r.packages.keys then r else { r with packages := r.packages.insert p } := by
  rw [after, perform]
  split
  · next changed hchanged =>
      obtain ⟨hnew, rfl⟩ := insertPackage_eq_ok_iff.mp hchanged
      rw [if_neg hnew]
  · next problem hproblem =>
      rw [if_pos (insertPackage_eq_error_iff.mp ⟨problem, hproblem⟩)]

/-- All that a step can do to a registry. -/
lemma after_cases (r : Registry) (s : Step) :
    r.after s = r ∨
    (∃ p, p.id ∉ r.packages.keys ∧ r.after s = { r with packages := r.packages.insert p }) ∨
    (∃ c, r.after s = r.insertComponent c) ∨
    (∃ problem, r.after s = r.warn problem) ∨
    ∃ (f : Component → Component) (keeps : ∀ c, (f c).key = c.key),
      r.after s = r.mapComponents f keeps := by
  cases s with
  | insertPackage p =>
      rw [after_insertPackage]
      split
      · exact Or.inl rfl
      · next hnew => exact Or.inr (Or.inl ⟨p, hnew, rfl⟩)
  | insertComponent c => exact Or.inr (Or.inr (Or.inl ⟨c, rfl⟩))
  | warn problem => exact Or.inr (Or.inr (Or.inr (Or.inl ⟨problem, rfl⟩)))
  | walk => exact Or.inl rfl
  | markExports requests config =>
      exact Or.inr (Or.inr (Or.inr (Or.inr ⟨_, Component.key_decideExport requests config, rfl⟩)))
  | resolveTypes =>
      exact Or.inr (Or.inr (Or.inr (Or.inr ⟨r.resolveComponent, fun _ => rfl, rfl⟩)))
  | reachAll config exports keys =>
      exact Or.inr (Or.inr (Or.inr (Or.inr ⟨_, _, ExportPass.registry_reachAll config _ keys⟩)))
  | resolve requests config =>
      exact Or.inr (Or.inr (Or.inr (Or.inr ⟨_, _, Assets.registry_resolve_eq _ config⟩)))

/-! ### What is never undone -/

/-- A registry came from another one without a package or a warning being replaced, removed or
moved, or a component being removed or moved. -/
structure Extends (r s : Registry) : Prop where
  packages : r.packages.items <+: s.packages.items
  keys : r.components.keys <+: s.components.keys
  warnings : r.warnings <+: s.warnings

lemma Extends.refl (r : Registry) : r.Extends r :=
  ⟨List.prefix_refl _, List.prefix_refl _, List.prefix_refl _⟩

lemma Extends.trans {r s t : Registry} (hrs : r.Extends s) (hst : s.Extends t) : r.Extends t :=
  ⟨hrs.packages.trans hst.packages, hrs.keys.trans hst.keys, hrs.warnings.trans hst.warnings⟩

/-- A step extends a registry. -/
lemma extends_after (r : Registry) (s : Step) : r.Extends (r.after s) := by
  rcases r.after_cases s with h | ⟨p, hnew, h⟩ | ⟨c, h⟩ | ⟨problem, h⟩ | ⟨f, keeps, h⟩
  · rw [h]
    exact Extends.refl r
  · rw [h]
    refine ⟨?_, List.prefix_refl _, List.prefix_refl _⟩
    rw [Catalog.items_insert_of_not_mem hnew]
    exact List.prefix_append _ _
  · rw [h]
    refine ⟨List.prefix_refl _, ?_, List.prefix_refl _⟩
    rw [insertComponent, Catalog.keys_insert]
    split
    · exact List.prefix_refl _
    · exact List.prefix_append _ _
  · rw [h]
    exact ⟨List.prefix_refl _, List.prefix_refl _, List.prefix_append _ _⟩
  · rw [h]
    refine ⟨List.prefix_refl _, ?_, List.prefix_refl _⟩
    rw [mapComponents, Catalog.keys_mapItems]

/-- So do several steps. -/
lemma extends_foldl_after (r : Registry) (steps : List Step) :
    r.Extends (steps.foldl after r) := by
  induction steps generalizing r with
  | nil => exact Extends.refl r
  | cons s rest ih => exact (r.extends_after s).trans (ih (r.after s))

/-! ### Steps as writes -/

/-- The writes that a step makes, as the registry is when it begins. -/
def writes (r : Registry) : Step → List Write
  | .insertPackage p => if p.id ∈ r.packages.keys then [] else [.package p]
  | .insertComponent c => [.component c]
  | .warn problem => [.warning problem]
  | .markExports requests config => [.decide requests config]
  | .resolveTypes => r.typeWrites
  | .walk => []
  | .reachAll config exports keys =>
    ExportPass.reachWrites config { registry := r, exports := exports } keys
  | .resolve requests config =>
    let a : Assets := { registry := r, requests := requests }
    [.decide requests config] ++ (a.exportPass config).registry.typeWrites ++
      (a.typePass config).reachWrites config (a.walk config).keys ++
      if (a.reachPass config).added = 0 then [] else (a.reachPass config).registry.typeWrites

/-- The writes of steps that are done one after the other. -/
def writesOf (r : Registry) : List Step → List Write
  | [] => []
  | s :: rest => r.writes s ++ writesOf (r.after s) rest

/-- A whole resolution makes its writes one after the other. -/
lemma replay_writes_resolve (r : Registry) (requests : ExportRequests) (config : Config) :
    r.tables.replay (r.writes (.resolve requests config)) =
      (r.after (.resolve requests config)).tables := by
  have hdecide : r.tables.replay [.decide requests config] =
      (Assets.exportPass { registry := r, requests := requests } config).registry.tables :=
    r.write_decide requests config
  have hreach := ExportPass.replay_reachWrites config
    (Assets.typePass { registry := r, requests := requests } config)
    (Assets.walk { registry := r, requests := requests } config).keys
  simp only [writes, Tables.replay_append]
  rw [hdecide, replay_typeWrites]
  change Tables.replay (Tables.replay (Assets.typePass _ config).registry.tables _) _ = _
  rw [hreach]
  simp only [after, perform, Assets.resolve]
  split
  · rfl
  · exact replay_typeWrites _

/-- A step makes its writes one after the other. -/
lemma replay_writes (r : Registry) (s : Step) :
    r.tables.replay (r.writes s) = (r.after s).tables := by
  cases s with
  | insertPackage p =>
      rw [after_insertPackage, writes]
      split
      · rfl
      · exact congrArg (Tables.mk · r.components.table r.warnings)
          (Catalog.table_insert r.packages p).symm
  | insertComponent c =>
      exact congrArg (Tables.mk r.packages.table · r.warnings)
        (Catalog.table_insert r.components c).symm
  | warn problem => rfl
  | markExports requests config => exact r.write_decide requests config
  | resolveTypes => exact r.replay_typeWrites
  | walk => rfl
  | reachAll config exports keys =>
      exact ExportPass.replay_reachWrites config { registry := r, exports := exports } keys
  | resolve requests config => exact r.replay_writes_resolve requests config

/-- So do several steps. -/
lemma replay_writesOf (r : Registry) (steps : List Step) :
    r.tables.replay (r.writesOf steps) = (steps.foldl after r).tables := by
  induction steps generalizing r with
  | nil => rfl
  | cons s rest ih => rw [writesOf, Tables.replay_append, replay_writes, ih, List.foldl_cons]

/-! ### What holds after every run -/

/-- **What a registry keeps**, whatever is done with it and in whatever order.  Written into tables,
every package and every component stands under its own key, and no two under the same.  Whatever is
done further, no package is replaced, removed or moved, no component removed or moved, and warnings
are added behind the others only.  A package is refused exactly if its identifier is taken, and then
the registry is left as it was.  A component with a known key takes the place of the one that has
it, and nothing else changes. -/
theorem run_keeps (steps more : List Step) :
    Tables.empty.replay (empty.writesOf steps) = (run steps).tables ∧
    (Tables.empty.replay (empty.writesOf steps)).Keyed ∧
    (run steps).Extends (run (steps ++ more)) ∧
    (∀ p, ((∃ problem, (run steps).perform (.insertPackage p) = .error problem) ↔
        p.id ∈ (run steps).packages.keys) ∧
      ∀ problem, (run steps).perform (.insertPackage p) = .error problem →
        (∃ first second, problem = .duplicatePackageId p.id first second) ∧
          run (steps ++ [.insertPackage p]) = run steps) ∧
    ∀ before old after c, (run steps).components.items = before ++ old :: after →
      old.key = c.key →
      (run (steps ++ [.insertComponent c])).components.items = before ++ c :: after ∧
      (run (steps ++ [.insertComponent c])).packages = (run steps).packages ∧
      (run (steps ++ [.insertComponent c])).warnings = (run steps).warnings := by
  have htables : Tables.empty.replay (empty.writesOf steps) = (run steps).tables :=
    replay_writesOf empty steps
  refine ⟨htables, htables ▸ (run steps).keyed_tables, ?_, fun p => ⟨?_, ?_⟩, ?_⟩
  · rw [run_append]
    exact (run steps).extends_foldl_after more
  · exact insertPackage_eq_error_iff
  · intro problem hproblem
    obtain ⟨earlier, _, _, hduplicate⟩ := insertPackage_eq_duplicate_iff.mp hproblem
    refine ⟨⟨_, _, hduplicate⟩, ?_⟩
    rw [run_append, List.foldl_cons, List.foldl_nil, after, hproblem]
  · intro before old after c hsplit hkey
    rw [run_append]
    exact ⟨Catalog.items_insert_of_split hsplit hkey, rfl, rfl⟩

/-- A second package with one identifier is refused, and a second component with one key takes the
place of the first. -/
theorem run_keeps_taken :
    let p : Package := ⟨"p", "P", ⟨"P"⟩, .ofList []⟩
    let q : Package := ⟨"p", "Q", ⟨"Q"⟩, .ofList []⟩
    let a : Component := ⟨"p", "a", "A.xml", .component, false, [], [], false, false, none⟩
    let b : Component := ⟨"p", "b", "B.xml", .component, false, [], [], false, false, none⟩
    let again : Component := { a with fileName := "Again.xml" }
    let steps := [.insertPackage p, .insertComponent a, .insertComponent b, .walk, .resolveTypes]
    (run steps).components.items = [a, b] ∧
    (∃ problem, (run steps).perform (.insertPackage q) = .error problem) ∧
    run (steps ++ [.insertPackage q]) = run steps ∧
    (run (steps ++ [.insertComponent again])).components.items = [again, b] := by
  intro p q a b again steps
  have hitems : (run steps).components.items = [a, b] := rfl
  obtain ⟨-, -, -, hpackage, hcomponent⟩ := run_keeps steps []
  obtain ⟨problem, hproblem⟩ := (hpackage q).1.mpr (by decide)
  refine ⟨hitems, ⟨problem, hproblem⟩, ((hpackage q).2 _ hproblem).2, ?_⟩
  exact (hcomponent [] a [b] again hitems rfl).1

end UiBinding.Registry
