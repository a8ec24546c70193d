/-
What can go wrong, from a missing manifest to an unknown shell.

A fatal diagnostic ends the run.  Every other one belongs to the package, component or member that
it was met in: it is kept as a warning, and the run goes on without that part.

* `Diagnostic.message` is the text shown;
* `Diagnostic.isFatal` tells the two classes apart.
-/

namespace UiBinding

/-- Something that went wrong. -/
inductive Diagnostic where
  /-- A package directory has no manifest. -/
  | missingManifest (path : String)
  | unreadableManifest (path reason : String)
  /-- A manifest is well formed but has no identifier, or its sections are not the expected ones. -/
  | malformedManifest (path reason : String)
  | duplicatePackageId (id first second : String)
  | unreadableComponent (path reason : String)
  | unknownComponentKind (component kind : String)
  | unknownDisplayNode (component node name : String)
  /-- A member refers to a component that is not registered. -/
  | danglingReference (component member target : String)
  | unresolvedReferences (count : Nat)
  | configNotFound (path : String)
  | unreadableConfig (path reason : String)
  | malformedConfig (path reason : String)
  | assetsNotFound (path : String)
  | unwritableFile (path reason : String)
  | ioFailed (reason : String)
  | unserializableReport (reason : String)
  | unknownShell (shell : String)
  deriving DecidableEq, Repr

namespace Diagnostic

/-- The text shown for a diagnostic. -/
def message : Diagnostic → String
  | missingManifest path => "Package manifest not found: " ++ path
  | unreadableManifest path reason => "Failed to read package manifest " ++ path ++ ": " ++ reason
  | malformedManifest path reason => "Malformed package manifest " ++ path ++ ": " ++ reason
  | duplicatePackageId id first second =>
    "Duplicate package id '" ++ id ++ "' in " ++ first ++ " and " ++ second
  | unreadableComponent path reason => "Failed to read component " ++ path ++ ": " ++ reason
  | unknownComponentKind component kind =>
    "Unknown component kind '" ++ kind ++ "' in " ++ component ++ ", using Component"
  | unknownDisplayNode component node name =>
    "Unknown display node '" ++ node ++ "' named '" ++ name ++ "' in " ++ component
  | danglingReference component member target =>
    "Dangling component reference: " ++ component ++ "." ++ member ++ " -> " ++ target
  | unresolvedReferences count =>
    "Resolution finished with " ++ toString count ++ " unresolved component reference(s)"
  | configNotFound path => "Configuration file not found: " ++ path
  | unreadableConfig path _ => "Failed to read configuration file: " ++ path
  | malformedConfig path reason => "Failed to parse configuration file: " ++ path ++ ": " ++ reason
  | assetsNotFound path => "Assets directory not found: " ++ path
  | unwritableFile path reason => "Failed to write file: " ++ path ++ ": " ++ reason
  | ioFailed reason => "IO error: " ++ reason
  | unserializableReport reason => "Failed to serialize resolution report: " ++ reason
  | unknownShell shell => "Unknown shell: " ++ shell

/-- Whether a diagnostic ends the run. -/
def isFatal : Diagnostic → Bool
  | missingManifest _ => false
  | unreadableManifest _ _ => false
  | unreadableComponent _ _ => false
  | unknownComponentKind _ _ => false
  | unknownDisplayNode _ _ _ => false
  | danglingReference _ _ _ => false
  | _ => true

/-- The code that identifies a diagnostic to other tools. -/
def code : Diagnostic → String
  | missingManifest _ => "fuibind::manifest::missing"
  | unreadableManifest _ _ => "fuibind::manifest::unreadable"
  | malformedManifest _ _ => "fuibind::manifest::malformed"
  | duplicatePackageId _ _ _ => "fuibind::manifest::duplicate_id"
  | unreadableComponent _ _ => "fuibind::component::unreadable"
  | unknownComponentKind _ _ => "fuibind::component::unknown_kind"
  | unknownDisplayNode _ _ _ => "fuibind::component::unknown_node"
  | danglingReference _ _ _ => "fuibind::resolve::dangling_reference"
  | unresolvedReferences _ => "fuibind::resolve::unresolved"
  | configNotFound _ => "fuibind::config::not_found"
  | unreadableConfig _ _ => "fuibind::config::read_failed"
  | malformedConfig _ _ => "fuibind::config::parse_failed"
  | assetsNotFound _ => "fuibind::fs::assets_not_found"
  | unwritableFile _ _ => "fuibind::fs::write_failed"
  | ioFailed _ => "fuibind::fs::io_error"
  | unserializableReport _ => "fuibind::report::serialize_failed"
  | unknownShell _ => "fuibind::cli::unknown_shell"

/-- What the user can do about a diagnostic, where that is known. -/
def help? : Diagnostic → Option String
  | missingManifest _ =>
    some "Every package directory needs a package.xml exported by the UI editor"
  | malformedManifest _ _ =>
    some "package.xml must contain a <resources> section followed by a <publish> section"
  | duplicatePackageId _ _ _ => some
      "Package ids are assigned by the UI editor and must be unique across the assets directory"
  | danglingReference _ _ _ => some
      "The referenced component was deleted or its package is missing from the assets directory"
  | unresolvedReferences _ => some "Run 'fuibind resolve' to see every dangling reference"
  | assetsNotFound _ => some
      "Point --assets at the editor's assets directory (one sub-directory per package)"
  | unknownShell _ => some "Supported shells: bash, elvish, fish, powershell, zsh"
  | _ => none

end Diagnostic

end UiBinding
