/-
Sessions: an assets directory together with the configuration that applies to it.

* `Session.start` finds the configuration: the file that is given, or else the one in the assets
  directory, or else the defaults;
* `Session.resolve` reads the packages and resolves them.
-/
import UiBinding.Assets.Discovery
import UiBinding.Assets.Parse
import UiBinding.Config
import UiBinding.Resolution.Journal

namespace UiBinding

namespace Config

/-- Reads the configuration from a file. -/
def ofFile (d : Disk) (path : Path) : Except Diagnostic Config :=
  match d.readText path with
  | .error fault => .error (.unreadableConfig path.text fault.message)
  | .ok text =>
    match ofYaml text with
    | .ok config => .ok config
    | .error problem => .error (.malformedConfig path.text problem.message)

/-- The file in an assets directory that the configuration is read from. -/
def fileIn? (d : Disk) (assets : Path) : Option Path :=
  let path := assets.join fileName
  if d.isFile path then some path else none

/-- The configuration for an assets directory.  A file that is given has to exist. -/
def load (d : Disk) (assets : Path) (given : Option Path) : Except Diagnostic Config :=
  match given with
  | some path => if d.isFile path then ofFile d path else .error (.configNotFound path.text)
  | none =>
    match fileIn? d assets with
    | some path => ofFile d path
    | none => .ok {}

end Config

/-- An assets directory and the configuration that applies to it. -/
structure Session where
  assets : Path
  config : Config

namespace Session

/-- Finds the configuration for an assets directory.  Default names can be included whatever the
configuration says. -/
def start (d : Disk) (assets : Path) (given : Option Path) (includeDefaultNames : Bool) :
    Except Diagnostic Session :=
  (Config.load d assets given).map fun config =>
    ⟨assets, { config with
      ignoreDefaultNames := config.ignoreDefaultNames && !includeDefaultNames }⟩

/-- What the start of a session tells. -/
def startLog (d : Disk) (assets : Path) (given : Option Path)
    (session : Except Diagnostic Session) : Log :=
  (if given.isNone ∧ (Config.fileIn? d assets).isNone then
    [.remark ("no " ++ Config.fileName ++ " in " ++ assets.text ++ ", using defaults")] else []) ++
  match session with
  | .error _ => []
  | .ok s =>
    [.remark ("assets " ++ s.assets.text ++ ", namespace " ++ s.config.classNamespace ++
      ", prefix " ++ s.config.classNamePrefix)]

/-- Reads every package. -/
def parse (d : Disk) (s : Session) : Except Diagnostic Parsing :=
  (d.packageFolders s.assets).map d.parse

/-- Reads every package and resolves what was read. -/
def resolve (d : Disk) (s : Session) : Except Diagnostic Resolution := do
  let parsing ← s.parse d
  let assets ← parsing.outcome
  return assets.resolve s.config

/-- What reading and resolving tells. -/
def resolveLog (d : Disk) (s : Session) : Log :=
  match s.parse d with
  | .error _ => []
  | .ok parsing =>
    parsing.log ++
      match parsing.outcome with
      | .error _ => []
      | .ok assets => assets.journal s.config

end Session

end UiBinding
