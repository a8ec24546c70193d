/-
Runs: what a command line does to a disk and what it writes.

* `CommandLine.run` is the whole of it;
* `Outcome` holds the verdict, the two outputs and the disk afterwards.
-/
import UiBinding.CommandLine.Basic
import UiBinding.Output.About
import UiBinding.Output.Listing
import UiBinding.Output.Panels
import UiBinding.Output.Summary
import UiBinding.Report.Format
import UiBinding.Session

namespace UiBinding

/-- What a run comes to. -/
structure Outcome where
  result : Except Diagnostic Unit
  /-- What is written to standard output. -/
  output : String
  /-- What is written to the standard output for errors. -/
  messages : String
  disk : Disk

namespace Resolution

/-- Writes the report into a file, and the summary to standard output unless the report was asked
for there. -/
def writeReport (r : Resolution) (d : Disk) (report : String) (path : Path) (json styled : Bool) :
    Outcome :=
  match d.writeText path (report ++ "\n") with
  | .error fault => ⟨.error (.unwritableFile path.text fault.message), "", "", d⟩
  | .ok written =>
    { result := r.verdict
      output := if json then "" else linesText (r.summary styled)
      messages := (Style.colour .green).apply styled "Wrote report to" ++ " " ++ path.text ++ "\n"
      disk := written }

/-- Reports a resolution: to a file, to standard output, or as a summary.  Dangling references fail
the run after everything was written. -/
def publish (r : Resolution) (d : Disk) (config : Config) (json : Bool) (output : Option Path)
    (styled : Bool) : Outcome :=
  match output, json with
  | some path, _ => r.writeReport d (Report.of r config).render path json styled
  | none, true => ⟨r.verdict, (Report.of r config).render ++ "\n", "", d⟩
  | none, false => ⟨r.verdict, linesText (r.summary styled), "", d⟩

/-- Does a task with a resolution. -/
def perform (r : Resolution) (d : Disk) (config : Config) (styled : Bool) : AssetTask → Outcome
  | .resolve json output => r.publish d config json output styled
  | .list detailed => ⟨.ok (), linesText (r.listing detailed styled), "", d⟩
  | .panels package => ⟨.ok (), linesText (r.panelListing package styled), "", d⟩

end Resolution

namespace CommandLine

/-- Does a task with the assets. -/
def runOnAssets (c : CommandLine) (task : AssetTask) (d : Disk) (styled : Bool) : Outcome :=
  let opened := Session.start d c.assets c.config c.includeDefaultNames
  let opening := Session.startLog d c.assets c.config opened
  match opened with
  | .error problem => ⟨.error problem, "", opening.render c.verbose, d⟩
  | .ok session =>
    let log := (opening ++ session.resolveLog d).render c.verbose
    match session.resolve d with
    | .error problem => ⟨.error problem, "", log, d⟩
    | .ok resolution =>
      let outcome := resolution.perform d session.config styled task
      { outcome with messages := log ++ outcome.messages }

/-- Does what a command line asks for, as the program does it that was built in the given way. -/
def run (c : CommandLine) (d : Disk) (styled : Bool) (build : Build := .plain) : Outcome :=
  match c.command with
  | .version => ⟨.ok (), linesText (aboutLines build), "", d⟩
  | .completions shell =>
    match Shell.ofName? shell with
    | some shell => ⟨.ok (), build.completionScript shell programName, "", d⟩
    | none => ⟨.error (.unknownShell shell), "", "", d⟩
  | .onAssets task => c.runOnAssets task d styled

end CommandLine

end UiBinding
