/-
Parsing: reading package folders one after the other into a registry.

The first refused manifest and the first package identifier that is taken end the parsing.  Every
other problem is noted as a warning.

* `Assets.add` registers what one folder turned out to be;
* `Disk.parse` goes through a list of folders and tells how far it came.
-/
import UiBinding.Assets.PackageFolder
import UiBinding.Resolution.Basic

namespace UiBinding

namespace Registry

/-- Notes problems in order. -/
def warnAll (r : Registry) (problems : List Diagnostic) : Registry := problems.foldl warn r

/-- Registers components in order. -/
def insertComponents (r : Registry) (components : List Component) : Registry :=
  components.foldl insertComponent r

end Registry

namespace Assets

/-- Notes requested addresses in order. -/
def request (a : Assets) (urls : List String) : Assets :=
  { a with requests := urls.foldl Catalog.insert a.requests }

/-- Registers what a folder turned out to be. -/
def add (a : Assets) (folder : PackageFolder) : Except Diagnostic Assets :=
  match folder with
  | .skipped _ => .ok { a with registry := a.registry.warnAll folder.problems }
  | .refused problem => .error problem
  | .accepted package files =>
    (a.registry.insertPackage package).map fun registry =>
      { a.request (files.flatMap ComponentFile.requests) with
        registry := (registry.insertComponents (files.filterMap ComponentFile.component?)).warnAll
          folder.problems }

/-- The remark on what was read in all. -/
def summary (a : Assets) : LogLine :=
  .remark ("parsed " ++ toString a.registry.packages.size ++ " package(s), " ++
    toString a.registry.components.size ++ " component(s), " ++ toString a.requests.size ++
    " export request(s)")

end Assets

/-- How a list of folders was parsed. -/
structure Parsing where
  /-- The folders that were begun, in order. -/
  visited : List Path
  log : Log
  outcome : Except Diagnostic Assets

namespace Disk

/-- Parses folders one after the other, beginning with what was read before. -/
def parseInto (d : Disk) (a : Assets) : List Path → Parsing
  | [] => ⟨[], [a.summary], .ok a⟩
  | path :: rest =>
    let folder := d.readPackage path
    match a.add folder with
    | .error problem => ⟨[path], folder.log, .error problem⟩
    | .ok a =>
      let more := d.parseInto a rest
      { visited := path :: more.visited
        log := folder.log ++ folder.problems.map (fun p => .warning p.message) ++ more.log
        outcome := more.outcome }

/-- Parses package folders. -/
def parse (d : Disk) (folders : List Path) : Parsing := d.parseInto .empty folders

end Disk

end UiBinding
