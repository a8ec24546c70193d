/-
Publication: what a run that resolves assets prints, writes and returns.

One command line is run in several ways: with the report on standard output or without it, and with
the report in a file or without one.  If the assets cannot be read, all of these runs fail in the
same way and do nothing.  Otherwise they differ in their outputs only, the report in a file is the
one that is printed, and they return the same verdict on the dangling references, unless the file
cannot be written.

* `CommandLine.resolving`: a command line, run in one of these ways;
* `Outcome.Fails` is a run that does nothing, and `Resolution.Published` is what the runs with a
  resolution have in common;
* `resolve_outcome`: the runs of a command line;
* `resolve_outcome_nested`: a report that is written among the assets.
-/
import UiBinding.Proofs.Disk.Writing
import UiBinding.Proofs.Walk.Attribution

namespace UiBinding

/-- A command line that resolves the assets and reports the result. -/
def CommandLine.resolving (c : CommandLine) (json : Bool) (output : Option Path) : CommandLine :=
  { c with command := .onAssets (.resolve json output) }

/-- A run fails without printing anything and leaves the disk as it was. -/
structure Outcome.Fails (o : Outcome) (d : Disk) (problem : Diagnostic) : Prop where
  result : o.result = .error problem
  output : o.output = ""
  disk : o.disk = d

/-- What runs with a resolution have in common, for each way to ask for the report. -/
structure Resolution.Published (r : Resolution) (d : Disk) (config : Config) (styled : Bool)
    (run : Bool → Option Path → Outcome) : Prop where
  report : (run true none).output = (Report.of r config).render ++ "\n"
  summary : (run false none).output = linesText (r.summary styled)
  /-- Without a file nothing is written. -/
  disk : ∀ json, (run json none).disk = d
  /-- A file that cannot be written ends the run. -/
  unwritable : ∀ json path fault, d.writeText path (run true none).output = .error fault →
    (run json (some path)).Fails d (.unwritableFile path.text fault.message)
  /-- A file that is written holds what is printed as the report, byte for byte, and no other file
  is touched. -/
  written : ∀ json path, ∀ written : Disk, d.writeText path (run true none).output = .ok written →
    (run json (some path)).disk = written ∧
    (run json (some path)).output = (if json then "" else (run false none).output) ∧
    written.readText path = .ok (run true none).output ∧
    ∃ place, d.target path = .ok place ∧ ∀ other, written.content? other =
      if place = other then some (.file (run true none).output.toUTF8) else d.content? other
  /-- The verdict does not depend on how the report is asked for. -/
  result : ∀ json output,
    (∀ path ∈ output, ∃ written : Disk, d.writeText path (run true none).output = .ok written) →
    (run json output).result = if r.dangling = [] then .ok ()
      else .error (.unresolvedReferences r.dangling.length)

/-- The verdict on a resolution counts its dangling references. -/
lemma Resolution.verdict_eq (r : Resolution) : r.verdict =
    if r.dangling = [] then .ok () else .error (.unresolvedReferences r.dangling.length) := by
  rw [verdict]
  cases r.dangling <;> rfl

namespace CommandLine

variable {c : CommandLine} {d : Disk} {styled : Bool} {build : Build} {session : Session}

/-- How the result is asked for does not matter before there is one. -/
lemma run_resolving (json : Bool) (output : Option Path) :
    (c.resolving json output).run d styled build =
      c.runOnAssets (.resolve json output) d styled := rfl

/-- If a session cannot be started, nothing is done. -/
lemma fails_of_start_eq_error {problem : Diagnostic}
    (hstart : Session.start d c.assets c.config c.includeDefaultNames = .error problem)
    (json : Bool) (output : Option Path) :
    ((c.resolving json output).run d styled build).Fails d problem := by
  rw [run_resolving, runOnAssets]
  simp only [hstart]
  exact ⟨rfl, rfl, rfl⟩

/-- If the assets cannot be read, nothing is done. -/
lemma fails_of_resolve_eq_error {problem : Diagnostic}
    (hstart : Session.start d c.assets c.config c.includeDefaultNames = .ok session)
    (hresolve : session.resolve d = .error problem) (json : Bool) (output : Option Path) :
    ((c.resolving json output).run d styled build).Fails d problem := by
  rw [run_resolving, runOnAssets]
  simp only [hstart, hresolve]
  exact ⟨rfl, rfl, rfl⟩

/-- If there is a resolution, it is published, whatever was told before. -/
lemma exists_run_resolving_eq {resolution : Resolution}
    (hstart : Session.start d c.assets c.config c.includeDefaultNames = .ok session)
    (hresolve : session.resolve d = .ok resolution) (styled : Bool) (build : Build) (json : Bool)
    (output : Option Path) :
    ∃ messages, (c.resolving json output).run d styled build =
      { resolution.publish d session.config json output styled with messages := messages } := by
  rw [run_resolving, runOnAssets]
  simp only [hstart, hresolve]
  exact ⟨_, rfl⟩

/-- The runs with a resolution, for each way to ask for the report. -/
lemma published_run_resolving {resolution : Resolution}
    (hstart : Session.start d c.assets c.config c.includeDefaultNames = .ok session)
    (hresolve : session.resolve d = .ok resolution) :
    resolution.Published d session.config styled
      fun json output => (c.resolving json output).run d styled build := by
  have hrun := exists_run_resolving_eq hstart hresolve styled build
  have hreport : ((c.resolving true none).run d styled build).output =
      (Report.of resolution session.config).render ++ "\n" := by
    obtain ⟨messages, hrun⟩ := hrun true none
    rw [hrun]
    rfl
  have hsummary : ((c.resolving false none).run d styled build).output =
      linesText (resolution.summary styled) := by
    obtain ⟨messages, hrun⟩ := hrun false none
    rw [hrun]
    rfl
  constructor
  case report => exact hreport
  case summary => exact hsummary
  case disk =>
    intro json
    obtain ⟨messages, hrun⟩ := hrun json none
    rw [hrun]
    cases json <;> rfl
  case unwritable =>
    intro json path fault hfault
    obtain ⟨messages, hrun⟩ := hrun json (some path)
    rw [hreport] at hfault
    rw [hrun, Resolution.publish, Resolution.writeReport, hfault]
    exact ⟨rfl, rfl, rfl⟩
  case written =>
    intro json path written hwritten
    obtain ⟨messages, hrun⟩ := hrun json (some path)
    have hread := Disk.readText_of_writeText_eq_ok hwritten
    have hcontent := Disk.content?_of_writeText_eq_ok hwritten
    rw [hreport] at hwritten
    rw [hrun, hsummary, Resolution.publish, Resolution.writeReport, hwritten]
    exact ⟨rfl, rfl, hread, hcontent⟩
  case result =>
    intro json output hwritten
    obtain ⟨messages, hrun⟩ := hrun json output
    rw [hrun, ← resolution.verdict_eq]
    cases output with
    | none => cases json <;> rfl
    | some path =>
        obtain ⟨written, hwritten⟩ := hwritten path rfl
        rw [hreport] at hwritten
        rw [Resolution.publish, Resolution.writeReport, hwritten]

/-- **Outputs and verdict agree.**  If no session can be started or the assets cannot be read, a run
fails with that problem, prints nothing and leaves the disk as it was, in whatever way the report is
asked for.  Otherwise the runs publish the resolution. -/
theorem resolve_outcome (c : CommandLine) (d : Disk) (styled : Bool) (build : Build) :
    let start := Session.start d c.assets c.config c.includeDefaultNames
    let run := fun json output => (c.resolving json output).run d styled build
    (∀ problem, start = .error problem → ∀ json output, (run json output).Fails d problem) ∧
    ∀ session, start = .ok session →
      (∀ problem, session.resolve d = .error problem →
        ∀ json output, (run json output).Fails d problem) ∧
      ∀ resolution, session.resolve d = .ok resolution →
        resolution.Published d session.config styled run := by
  intro start run
  constructor
  · intro problem hstart json output
    exact fails_of_start_eq_error hstart json output
  · intro session hstart
    constructor
    · intro problem hresolve json output
      exact fails_of_resolve_eq_error hstart hresolve json output
    · intro resolution hresolve
      exact published_run_resolving hstart hresolve

/-- A report that is written among the assets that it tells of holds what is printed without a file,
and the verdict is the same.  It cannot be written in the place of the assets. -/
theorem resolve_outcome_nested :
    let c : CommandLine := ⟨⟨"ui"⟩, none, false, false, .version⟩
    let run := fun json output => (c.resolving json output).run Disk.nested false
    ((run false (some ⟨"ui/report.json"⟩)).disk.readText ⟨"ui/report.json"⟩ =
        .ok (run true none).output ∧
      (run false (some ⟨"ui/report.json"⟩)).output = (run false none).output ∧
      (run false (some ⟨"ui/report.json"⟩)).result = (run true none).result) ∧
    (run true (some ⟨"ui"⟩)).Fails Disk.nested
      (.unwritableFile "ui" "Is a directory (os error 21)") := by
  intro c run
  obtain ⟨resolution, hresolve, -⟩ := Disk.resolve_nested
  obtain ⟨-, hruns⟩ := resolve_outcome c Disk.nested false .plain
  have hpublished := (hruns _ Disk.start_nested).2 resolution hresolve
  have hvacant : Disk.nested.IsVacant ⟨"ui/report.json"⟩ := by decide +kernel
  have htarget : Disk.nested.target ⟨"ui/report.json"⟩ = .ok ["ui", "report.json"] := by
    rw [Disk.target, hvacant.locate_eq]
    exact congrArg Except.ok (by decide +kernel)
  obtain ⟨written, hwritten⟩ : ∃ written : Disk,
      Disk.nested.writeText ⟨"ui/report.json"⟩ (run true none).output = .ok written := by
    rw [Disk.writeText, Disk.writeBytes, htarget]
    exact ⟨_, rfl⟩
  obtain ⟨hdisk, houtput, hread, -⟩ := hpublished.written false _ written hwritten
  refine ⟨⟨hdisk ▸ hread, houtput, ?_⟩, ?_⟩
  · have hfile := hpublished.result false (some ⟨"ui/report.json"⟩) (by simp [hwritten, run])
    have hnone := hpublished.result true none (by simp)
    exact hfile.trans hnone.symm
  · have hplain : Disk.nested.IsPlain ⟨"ui"⟩ := by decide +kernel
    have hfolder : Disk.nested.target ⟨"ui"⟩ = .error .isFolder := by
      rw [Disk.target, hplain.locate_eq]
      rfl
    refine hpublished.unwritable true ⟨"ui"⟩ .isFolder ?_
    rw [Disk.writeText, Disk.writeBytes, hfolder]
    rfl

end CommandLine

end UiBinding
