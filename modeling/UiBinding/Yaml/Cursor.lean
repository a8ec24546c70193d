/-
A place in a text: what is still to be read, and how far it is from the start in bytes, lines and
columns.  Columns decide the structure of a YAML text, so every reader moves a cursor.
-/
import UiBinding.Yaml.Character

namespace UiBinding.Yaml

/-- A place in a text. -/
structure Cursor where
  rest : List Char
  /-- The number of bytes before it. -/
  index : Nat
  line : Nat
  column : Nat
  deriving Repr

namespace Cursor

/-- The start of a text. -/
def start (text : List Char) : Cursor := ⟨text, 0, 0, 0⟩

/-- The character here. -/
def here (c : Cursor) : Option Char := c.rest.head?

/-- The character `n` places on. -/
def ahead (c : Cursor) (n : Nat) : Option Char := c.rest[n]?

/-- Whether a given character stands here. -/
def at? (c : Cursor) (ch : Char) : Bool := c.here = some ch

/-- Whether a character of a class stands here. -/
def within (c : Cursor) (p : Char → Bool) : Bool := c.here.any p

/-- The length of a text in bytes. -/
def byteLength (cs : List Char) : Nat := cs.foldl (fun n c => n + c.utf8Size) 0

/-- The place `n` characters on, on the same line. -/
def advance (c : Cursor) (n : Nat) : Cursor :=
  { c with
    rest := c.rest.drop n
    index := c.index + byteLength (c.rest.take n)
    column := c.column + n }

/-- The run of characters of a class that begins here. -/
def run (c : Cursor) (p : Char → Bool) : List Char := c.rest.takeWhile p

/-- The place after the run of characters of a class. -/
def skip (c : Cursor) (p : Char → Bool) : Cursor := c.advance (c.run p).length

/-- The place after the line break here. -/
def nextLine (c : Cursor) : Cursor :=
  let width := match c.rest with
    | '\r' :: '\n' :: _ => 2
    | _ => 1
  { rest := c.rest.drop width
    index := c.index + byteLength (c.rest.take width)
    line := c.line + 1
    column := 0 }

/-- What the line break here stands for: a line feed, unless it is one of the two Unicode
separators. -/
def breakText (c : Cursor) : List Char :=
  match c.here with
  | none => []
  | some ch => if ch = '\u2028' || ch = '\u2029' then [ch] else ['\n']

/-- The place after the line break here, if there is one. -/
def pastBreak (c : Cursor) : Cursor := if c.within isBreak then c.nextLine else c

/-- The place after the blanks here and a comment behind them. -/
def skipComment (c : Cursor) : Cursor :=
  let c := c.skip isBlank
  if c.at? '#' then c.skip (!isBreak ·) else c

/-- Whether a line begins here with three given characters that stand alone. -/
def atMarker (c : Cursor) (ch : Char) : Bool :=
  c.column = 0 && c.rest.take 3 = [ch, ch, ch] && endsWord (c.ahead 3)

/-- Whether a document begins or ends here. -/
def atDocumentMarker (c : Cursor) : Bool := c.atMarker '-' || c.atMarker '.'

end Cursor

end UiBinding.Yaml
