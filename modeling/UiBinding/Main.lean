/-
The program: reads its arguments, copies the files that they name into a `Disk`, runs the command
line on it, and carries out what changed.

Everything that decides anything is in `CommandLine.run`; here is only the exchange with the
operating system.
-/
import UiBinding.CommandLine.Reading
import UiBinding.Run

namespace UiBinding

namespace Snapshot

/-- How the operating system writes a place. -/
def absolute (place : Disk.Place) : String := "/" ++ "/".intercalate place

/-- The names of the parts of a path, without those that stay where they are. -/
def names (path : String) : List String :=
  (Path.parts ⟨path⟩).filter fun part => part != "" && part != "."

/-- Copies what the parts of a path lead to, with the links and folders on the way, and where the
way ends in a folder everything below it if `whole` is set. -/
partial def copy (whole : Bool) (d : Disk) (here : Disk.Place) (parts : List String) : IO Disk := do
  let root ← IO.currentDir
  match parts with
  | [] =>
    if !whole then return d
    let entries ← try (root / absolute here).readDir catch _ => pure #[]
    entries.foldlM (fun d entry => copy whole d here [entry.fileName]) d
  | ".." :: rest => copy whole d here.dropLast rest
  | part :: rest =>
    let place := here ++ [part]
    let path := root / absolute place
    let kind? ← try pure (some (← path.symlinkMetadata).type) catch _ => pure none
    match kind? with
    | some .dir => copy whole (d.put place .folder) place rest
    | some .file =>
      if rest.isEmpty then return d.put place (.file (← IO.FS.readBinFile path)) else return d
    | some .symlink =>
      if (d.content? place).isSome && rest.isEmpty then return d
      -- a link that leads nowhere counts as missing
      let target? ← try pure (some (← IO.FS.realPath path).toString) catch _ => pure none
      match target? with
      | some target => copy whole (d.put place (.link target)) [] (names target ++ rest)
      | none => return d
    | _ => return d

/-- Copies what a path leads to. -/
def add (whole : Bool) (d : Disk) (path : Path) : IO Disk :=
  copy whole d (if path.isAbsolute then [] else d.workingFolder) (names path.text)

/-- The paths of the component files that the manifests of an assets directory list. -/
def componentPaths (d : Disk) (assets : Path) : List Path :=
  match d.packageFolders assets with
  | .error _ => []
  | .ok folders => folders.flatMap fun folder =>
    match d.readPackage folder with
    | .accepted package _ => package.entries.items.map Package.Entry.path
    | _ => []

/-- The part of the file tree that a command line is about. -/
def take (c : CommandLine) : IO Disk := do
  let folder := names (← IO.currentDir).toString
  let d ← c.config.toList.foldlM (add false) (.bare folder)
  match c.command with
  | .onAssets task =>
    let d ← add true d c.assets
    let d ← (componentPaths d c.assets).foldlM (add false) d
    match task with
    | .resolve _ (some output) => add false d output
    | _ => return d
  | _ => return d

/-- Writes the files that differ from those of an earlier state. -/
def carryOut (earlier later : Disk) : IO Unit :=
  later.entries.items.forM fun entry => do
    if let .file bytes := entry.content then
      let unchanged := match earlier.content? entry.place with
        | some (.file before) => before.data = bytes.data
        | _ => false
      if !unchanged then
        IO.FS.writeBinFile ((← IO.currentDir) / absolute entry.place) bytes

end Snapshot

/-- Runs the program that was built in the given way.  The exit code is 1 when the run fails and 2
when the arguments are not understood. -/
def runProgram (build : Build) (args : List String) : IO UInt32 := do
  let out ← IO.getStdout
  let err ← IO.getStderr
  match CommandLine.read args with
  | .error .helpRequested | .error .versionRequested =>
    out.putStrLn (programName ++ " " ++ programVersion)
    return 0
  | .error problem =>
    err.putStrLn ("error: " ++ problem.message)
    return 2
  | .ok commandLine =>
    let before ← Snapshot.take commandLine
    let outcome := commandLine.run before (← out.isTty) build
    Snapshot.carryOut before outcome.disk
    err.putStr outcome.messages
    out.putStr outcome.output
    match outcome.result with
    | .ok _ => return 0
    | .error problem =>
      err.putStrLn ("Error: " ++ problem.message)
      return 1

end UiBinding

/-- The entry point of the program, which comes without a generator of completion scripts. -/
def main (args : List String) : IO UInt32 := UiBinding.runProgram .plain args
