/-
Styled text: colours and other marks for a terminal.

* `Style.apply` puts the commands of a style around a text; where styles are switched off, the text
  stays as it is.
-/

namespace UiBinding

/-- The colours in use. -/
inductive Colour where
  | red
  | green
  | yellow
  | cyan
  deriving DecidableEq, Repr

/-- How a text looks. -/
structure Style where
  colour? : Option Colour := none
  bold : Bool := false
  dim : Bool := false
  deriving DecidableEq, Repr

/-- The number of a colour in a terminal command. -/
def Colour.number : Colour → String
  | red => "31"
  | green => "32"
  | yellow => "33"
  | cyan => "36"

namespace Style

/-- A style that is only a colour. -/
def colour (c : Colour) : Style := ⟨some c, false, false⟩

/-- Bold text. -/
def strong : Style := ⟨none, true, false⟩

/-- Dim text. -/
def faint : Style := ⟨none, false, true⟩

/-- Bold text in a colour. -/
def strongColour (c : Colour) : Style := ⟨some c, true, false⟩

/-- A terminal command. -/
def code (number : String) : String := "\x1b[" ++ number ++ "m"

/-- The commands that switch a style on, its colour first. -/
def codes (s : Style) : String :=
  (match s.colour? with
    | some c => code c.number
    | none => "") ++
  (if s.bold then code "1" else "") ++ if s.dim then code "2" else ""

/-- A text in a style, if styles are switched on. -/
def apply (s : Style) (styled : Bool) (text : String) : String :=
  if styled then s.codes ++ text ++ code "0" else text

end Style

/-- Lines of text, each with its line break. -/
def linesText (lines : List String) : String := String.join (lines.map fun line => line ++ "\n")

end UiBinding
