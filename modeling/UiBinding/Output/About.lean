/-
What the program says about itself: its version and defaults, and completion scripts for shells.

Two things are settled when the program is built and are parameters here, as a `Build`: whether
assertions for debugging are compiled in, and the generator that writes the completion scripts.
-/
import UiBinding.Component.Kind
import UiBinding.Config
import UiBinding.Output.Styled

namespace UiBinding

/-- The name under which the program is called. -/
def programName : String := "fuibind"

/-- The version of the program. -/
def programVersion : String := "0.1.0"

/-- The shells that there are completion scripts for. -/
inductive Shell where
  | bash
  | elvish
  | fish
  | powerShell
  | zsh
  deriving DecidableEq, Repr

namespace Shell

/-- A name with small letters only.  The letters of ASCII are enough: no other capital has a letter
of a shell's name as its small form. -/
def lowered (name : String) : String := String.ofList (name.toList.map Char.toLower)

/-- The shell with a name; letter case does not count. -/
def ofName? (name : String) : Option Shell :=
  match lowered name with
  | "bash" => some bash
  | "elvish" => some elvish
  | "fish" => some fish
  | "powershell" => some powerShell
  | "pwsh" => some powerShell
  | "zsh" => some zsh
  | _ => none

end Shell

/-- What is settled when the program is built. -/
structure Build where
  /-- Whether assertions for debugging are compiled in. -/
  debugAssertions : Bool
  /-- The completion script for a shell and a program with the given name, as the generator writes
  it. -/
  completionScript : Shell → String → String

namespace Build

/-- A debug build whose generator puts nothing into a script but the name of the program. -/
def plain : Build := ⟨true, fun _ name => name ++ "\n"⟩

/-- The name of the profile that the program was built with. -/
def profile (b : Build) : String := if b.debugAssertions then "debug" else "release"

end Build

/-- The version, the profile, the defaults of the configuration and the kinds of components that are
known. -/
def aboutLines (b : Build) : List String :=
  let defaults : Config := {}
  [programName ++ " " ++ programVersion, "", "Build info:", "  Profile: " ++ b.profile,
    "  Config file: " ++ Config.fileName,
    "  Default namespace: " ++ defaults.classNamespace,
    "  Default class prefix: " ++ defaults.classNamePrefix,
    "  Component kinds: " ++ ", ".intercalate (Component.Kind.all.map Component.Kind.name)]

end UiBinding
