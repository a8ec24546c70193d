/-
Log lines: what a run tells about its progress.

* `Log.render` is the text of a log; remarks are shown only when they are asked for.
-/

namespace UiBinding

/-- How much a log line matters. -/
inductive LogLevel where
  /-- A remark on the progress. -/
  | remark
  | warning
  deriving DecidableEq, Repr

/-- A line of the log. -/
structure LogLine where
  level : LogLevel
  message : String
  deriving DecidableEq, Repr

namespace LogLine

/-- A remark on the progress. -/
def remark (message : String) : LogLine := ⟨.remark, message⟩

/-- A warning. -/
def warning (message : String) : LogLine := ⟨.warning, message⟩

/-- The name of a level, five characters wide. -/
def levelText : LogLevel → String
  | .remark => "DEBUG"
  | .warning => " WARN"

/-- A number below 256 as two hexadecimal digits. -/
def hexByte (n : Nat) : String := String.ofList [Nat.digitChar (n / 16), Nat.digitChar (n % 16)]

/-- A character as the log shows it.  Those that a terminal takes as commands are written out. -/
def shown (c : Char) : String :=
  let n := c.toNat
  if n = 0x1b ∨ n = 0x07 ∨ n = 0x08 ∨ n = 0x0c ∨ n = 0x7f then "\\x" ++ hexByte n
  else if 0x80 ≤ n ∧ n ≤ 0x9f then "\\u\x7b" ++ hexByte n ++ "\x7d"
  else c.toString

/-- The text of a line. -/
def text (line : LogLine) : String :=
  levelText line.level ++ " " ++ String.join (line.message.toList.map shown) ++ "\n"

end LogLine

/-- Lines in the order in which they were written. -/
abbrev Log := List LogLine

namespace Log

/-- The lines that are shown. -/
def shownLines (verbose : Bool) (log : Log) : Log :=
  log.filter fun line => verbose || line.level = .warning

/-- The text of a log. -/
def render (verbose : Bool) (log : Log) : String :=
  String.join ((log.shownLines verbose).map LogLine.text)

end Log

end UiBinding
