/-
Reading command lines.

A command line is read from left to right, first up to the command and then behind it.  A value
that is given to an option is examined only when the next option or argument makes that necessary,
or at the end; so an error further right can be reported before it.

* `Given.settle` examines the value that is still open;
* `CommandLine.read` reads the words of a command line.
-/
import UiBinding.CommandLine.Grammar

namespace UiBinding.CommandLine

/-- Something that was given but not examined yet. -/
inductive Open where
  /-- An option; its value may be still to come. -/
  | switch (o : Switch) (value : Option String)
  | argument (value : String)
  deriving DecidableEq, Repr

/-- What was given at one level. -/
structure Given where
  /-- The options with their values; those that take none have an empty one. -/
  switches : List (Switch × String) := []
  argument? : Option String := none
  open? : Option Open := none
  deriving DecidableEq, Repr

namespace Given

/-- Whether an option was given. -/
def has (g : Given) (o : Switch) : Bool := g.switches.any fun s => s.1 = o

/-- The value that was given to an option. -/
def value? (g : Given) (o : Switch) : Option String :=
  (g.switches.find? fun s => s.1 = o).map Prod.snd

/-- Whether the value of an option is still to come. -/
def awaitsValue (g : Given) : Bool :=
  match g.open? with
  | some (.switch _ none) => true
  | _ => false

/-- Whether an argument was given. -/
def hasArgument (g : Given) : Bool :=
  g.argument?.isSome ||
    match g.open? with
    | some (.argument _) => true
    | _ => false

/-- Takes an option with its value.  An option is given once, and a path is not empty. -/
def store (g : Given) (o : Switch) (value : String) : Except UsageError Given :=
  if g.has o then .error .repeated
  else if o.takesPath ∧ value = "" then .error .invalidValue
  else .ok { g with switches := g.switches ++ [(o, value)] }

/-- Examines what is still open. -/
def settle (g : Given) : Except UsageError Given :=
  let settled := { g with open? := none }
  match g.open? with
  | none => .ok g
  | some (.switch _ none) => .error .invalidValue
  | some (.switch o (some value)) => settled.store o value
  | some (.argument value) => .ok { settled with argument? := some value }

/-- Takes an option that has no value. -/
def raise (g : Given) (o : Switch) : Except UsageError Given := do
  let g ← g.settle
  match o with
  | .help => .error .helpRequested
  | .version => .error .versionRequested
  | o => g.store o ""

/-- Takes an option with a value that is attached to it. -/
def attach (g : Given) (o : Switch) (value : String) : Except UsageError Given := do
  (← g.settle).store o value

/-- Takes an option whose value is the next word. -/
def await (g : Given) (o : Switch) : Except UsageError Given := do
  return { ← g.settle with open? := some (.switch o none) }

/-- Takes the next word as the value of the option that awaits one. -/
def supply (g : Given) (value : String) : Given :=
  match g.open? with
  | some (.switch o none) => { g with open? := some (.switch o (some value)) }
  | _ => g

/-- Takes an argument. -/
def takeArgument (g : Given) (value : String) : Except UsageError Given := do
  return { ← g.settle with open? := some (.argument value) }

/-- Takes an option that is written with a word, and the value attached to it. -/
def readWord (g : Given) (level : Level) (word : String) (attached : Option String) :
    Except UsageError Given :=
  match level.withWord? word with
  | none => .error .unknownArgument
  | some o =>
    match o.takesPath, attached with
    | true, some value => g.attach o value
    | true, none => g.await o
    | false, some _ => .error .unexpectedValue
    | false, none => g.raise o

/-- Takes options that are written with letters.  What follows the letter of an option that takes a
value is its value, with or without an equals sign between them. -/
def readLetters (g : Given) (level : Level) : List Char → Except UsageError Given
  | [] => .ok g
  | letter :: rest =>
    match level.withLetter? letter with
    | none => .error .unknownArgument
    | some o =>
      if o.takesPath then
        match rest with
        | [] => g.await o
        | '=' :: value => g.attach o (String.ofList value)
        | value => g.attach o (String.ofList value)
      else do
        (← g.raise o).readLetters level rest

end Given

/-- The two sides of the first equals sign. -/
def splitAtEquals (cs : List Char) : String × Option String :=
  let word := cs.takeWhile (· != '=')
  match cs.drop word.length with
  | _ :: value => (String.ofList word, some (String.ofList value))
  | [] => (String.ofList word, none)

/-- What a word looks like. -/
inductive Shape where
  /-- Two dashes: only arguments follow. -/
  | separator
  | word (name : String) (attached : Option String)
  | letters (letters : List Char)
  | plain
  deriving DecidableEq, Repr

/-- The look of a word.  A single dash is plain. -/
def Shape.of (word : String) : Shape :=
  match word.toList with
  | ['-', '-'] => .separator
  | '-' :: '-' :: rest => .word (splitAtEquals rest).1 (splitAtEquals rest).2
  | '-' :: c :: rest => .letters (c :: rest)
  | _ => .plain

/-- The error for a word that no one takes. -/
def unplaced (level : Level) (behindSeparator : Bool) (word : String) : UsageError :=
  match level with
  | .behind _ => .unknownArgument
  | .start => if behindSeparator && level.isCommand word then .unknownArgument else .unknownCommand

/-- What asking for help about commands comes to. -/
def helpAbout : List String → UsageError
  | [] => .helpRequested
  | [word] => if Level.start.isCommand word then .helpRequested else .unknownCommand
  | _ => .unknownCommand

/-- Takes a word that is no option. -/
def readPlain (level : Level) (g : Given) (behindSeparator : Bool) (word : String) :
    Except UsageError Given :=
  if level.takesArgument && !g.hasArgument then g.takeArgument word
  else .error (unplaced level behindSeparator word)

/-- Reads the words of a level, up to the command if one may follow.  The result holds the command
with the words behind it. -/
def readLevel (level : Level) (g : Given) (behindSeparator : Bool) :
    List String → Except UsageError (Given × Option (CommandName × List String))
  | [] => .ok (g, none)
  | word :: rest =>
    if behindSeparator then do
      readLevel level (← readPlain level g true word) true rest
    else if !g.awaitsValue && level.isCommand word then
      match level.command? word with
      | some command => .ok (g, some (command, rest))
      | none => .error (helpAbout rest)
    else
      match Shape.of word with
      | .separator => readLevel level g true rest
      | .word name attached => do
        readLevel level (← g.readWord level name attached) false rest
      | .letters letters => do
        readLevel level (← g.readLetters level letters) false rest
      | .plain =>
        if g.awaitsValue then readLevel level (g.supply word) false rest
        else do readLevel level (← readPlain level g false word) false rest

/-- Reads the words behind a command. -/
def readBehind (command : CommandName) (words : List String) : Except UsageError Given := do
  let (g, _) ← readLevel (.behind command) {} false words
  let g ← g.settle
  if command = .completions ∧ g.argument? = none then .error .missingArgument else .ok g

/-- The command with what was given behind it. -/
def commandOf (name : CommandName) (g : Given) : Command :=
  match name with
  | .resolve => .onAssets (.resolve (g.has .json) ((g.value? .output).map Path.mk))
  | .list => .onAssets (.list (g.has .detailed))
  | .panels => .onAssets (.panels g.argument?)
  | .version => .version
  | .completions => .completions (g.argument?.getD "")

/-- The command line made of what was given on both sides of the command.  What stands behind the
command counts first. -/
def assemble (before behind : Given) (name : CommandName) : CommandLine where
  assets := ⟨((behind.value? .assets).or (before.value? .assets)).getD "."⟩
  config := ((behind.value? .config).or (before.value? .config)).map Path.mk
  includeDefaultNames := behind.has .includeDefaultNames || before.has .includeDefaultNames
  verbose := behind.has .verbose || before.has .verbose
  command := commandOf name behind

/-- Reads the words of a command line. -/
def read (words : List String) : Except UsageError CommandLine := do
  let (before, found) ← readLevel .start {} false words
  match found with
  | some (name, rest) =>
    let behind ← readBehind name rest
    return assemble (← before.settle) behind name
  | none =>
    let before ← before.settle
    .error (if before.switches.isEmpty then .nothingGiven else .missingCommand)

end UiBinding.CommandLine
