/-
Command lines: what a run is asked to do, and on which assets.
-/
import UiBinding.Disk.Path

namespace UiBinding

/-- What can be done with the assets. -/
inductive AssetTask where
  /-- Resolve all packages and report the result. -/
  | resolve (json : Bool) (output : Option Path)
  /-- List the exported components. -/
  | list (detailed : Bool)
  /-- Show root panels and what they lead to, of all packages or of one. -/
  | panels (package : Option String)
  deriving DecidableEq, Repr

/-- What a run is asked to do. -/
inductive Command where
  | onAssets (task : AssetTask)
  | version
  /-- Write a completion script for a shell. -/
  | completions (shell : String)
  deriving DecidableEq, Repr

/-- A command line that was understood. -/
structure CommandLine where
  assets : Path
  config : Option Path
  includeDefaultNames : Bool
  verbose : Bool
  command : Command
  deriving DecidableEq, Repr

end UiBinding
