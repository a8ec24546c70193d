/-
The grammar of command lines: which commands there are, and which options each of them takes.

* `Level` is a place in a command line: before the command, or behind it;
* `Level.withWord?` and `Level.withLetter?` find the option that is written with a word or a
  letter;
* `UsageError` is why a command line is not obeyed.
-/
import UiBinding.CommandLine.Basic

namespace UiBinding

namespace CommandLine

/-- Why a command line is not obeyed. -/
inductive UsageError where
  | unknownArgument
  /-- A value is empty or missing. -/
  | invalidValue
  /-- An option is given twice. -/
  | repeated
  /-- A value is attached to an option that takes none. -/
  | unexpectedValue
  | missingArgument
  | missingCommand
  | unknownCommand
  | helpRequested
  | versionRequested
  /-- Nothing at all is asked for. -/
  | nothingGiven
  deriving DecidableEq, Repr

/-- The words for a usage error. -/
def UsageError.message : UsageError → String
  | unknownArgument => "unexpected argument found"
  | invalidValue => "a value is required but none was supplied"
  | repeated => "an argument cannot be used multiple times"
  | unexpectedValue => "unexpected value for an argument that takes none"
  | missingArgument => "a required argument was not provided"
  | missingCommand => "a command is required but none was provided"
  | unknownCommand => "unrecognized command"
  | helpRequested => "Commands: resolve, list, panels, completions, help"
  | versionRequested => "version"
  | nothingGiven => "Commands: resolve, list, panels, completions, help"

/-- The commands by name. -/
inductive CommandName where
  | resolve
  | list
  | panels
  | version
  | completions
  deriving DecidableEq, Repr

/-- Every command. -/
def CommandName.all : List CommandName := [resolve, list, panels, version, completions]

/-- How a command is written. -/
def CommandName.text : CommandName → String
  | resolve => "resolve"
  | list => "list"
  | panels => "panels"
  | version => "version"
  | completions => "completions"

/-- How the command is written that asks for help. -/
def helpWord : String := "help"

/-- The options, with or without a value. -/
inductive Switch where
  | assets
  | config
  | includeDefaultNames
  | verbose
  | json
  | output
  | detailed
  | help
  | version
  deriving DecidableEq, Repr

namespace Switch

/-- The word that an option is written with, behind two dashes. -/
def word : Switch → String
  | assets => "assets"
  | config => "config"
  | includeDefaultNames => "include-default-names"
  | verbose => "verbose"
  | json => "json"
  | output => "output"
  | detailed => "detailed"
  | help => "help"
  | version => "version"

/-- The letter that an option is written with, behind one dash. -/
def letter? : Switch → Option Char
  | assets => some 'a'
  | config => some 'c'
  | verbose => some 'v'
  | output => some 'o'
  | help => some 'h'
  | version => some 'V'
  | _ => none

/-- Whether an option is followed by a path. -/
def takesPath : Switch → Bool
  | assets | config | output => true
  | _ => false

end Switch

/-- A place in a command line: before the command, or behind it. -/
inductive Level where
  | start
  | behind (command : CommandName)
  deriving DecidableEq, Repr

namespace Level

/-- The options of a level.  Some may stand on either side of the command. -/
def options : Level → List Switch
  | start => [.assets, .config, .includeDefaultNames, .verbose, .help, .version]
  | behind .resolve => [.assets, .config, .includeDefaultNames, .verbose, .json, .output, .help]
  | behind .list => [.assets, .config, .includeDefaultNames, .verbose, .detailed, .help]
  | behind _ => [.assets, .config, .includeDefaultNames, .verbose, .help]

/-- The option that is written with a word. -/
def withWord? (level : Level) (word : String) : Option Switch :=
  level.options.find? fun o => o.word = word

/-- The option that is written with a letter. -/
def withLetter? (level : Level) (letter : Char) : Option Switch :=
  level.options.find? fun o => o.letter? = some letter

/-- Whether a level takes an argument that is no option. -/
def takesArgument : Level → Bool
  | behind .panels => true
  | behind .completions => true
  | _ => false

/-- The commands that may follow. -/
def commands : Level → List CommandName
  | start => CommandName.all
  | behind _ => []

/-- Whether a word is a command, the one for help included. -/
def isCommand (level : Level) (word : String) : Bool :=
  level = start && (word = helpWord || CommandName.all.any fun c => c.text = word)

/-- The command that is written with a word. -/
def command? (level : Level) (word : String) : Option CommandName :=
  level.commands.find? fun c => c.text = word

end Level

end CommandLine

end UiBinding
