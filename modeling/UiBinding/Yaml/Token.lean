/-
The tokens of YAML, and the text of scalars as written.

* `Gap` is what stands between two words of a scalar, and `Gap.text` what it becomes: blanks stay,
  one line break becomes a space, and of several breaks all but the first stay.
-/
import UiBinding.Yaml.Cursor

namespace UiBinding.Yaml

/-- How a scalar is written. -/
inductive ScalarStyle where
  | plain
  | quoted
  /-- After `|`: line breaks stay. -/
  | literal
  /-- After `>`: line breaks are folded. -/
  | folded
  deriving DecidableEq, Repr

/-- The text of a tag in bytes: what its escapes spell need not be characters. -/
abbrev TagText := List UInt8

/-- The bytes of a text. -/
def TagText.ofString (s : String) : TagText := s.toList.flatMap String.utf8EncodeChar

/-- A token. -/
inductive Token where
  | version (major minor : Nat)
  | tagPrefix (handle : String) (uri : TagText)
  | documentStart
  | documentEnd
  | blockSequenceStart
  | blockMappingStart
  | blockEnd
  | flowSequenceStart
  | flowSequenceEnd
  | flowMappingStart
  | flowMappingEnd
  /-- The hyphen before an item. -/
  | blockEntry
  /-- The comma between items in brackets. -/
  | flowEntry
  /-- Stands before a key, whether or not a question mark does. -/
  | key
  /-- The colon between a key and its value. -/
  | value
  | alias (name : String)
  | anchor (name : String)
  | tag (handle : String) (suffix : TagText)
  | scalar (text : String) (style : ScalarStyle)
  deriving DecidableEq, Repr

/-- What stands between two words of a scalar. -/
inductive Gap where
  | blanks (text : List Char)
  /-- A first line break and those after it. -/
  | breaks (first : List Char) (more : List Char)
  deriving DecidableEq, Repr

/-- What a gap becomes in the value. -/
def Gap.text : Gap → List Char
  | .blanks text => text
  | .breaks ['\n'] [] => [' ']
  | .breaks ['\n'] more => more
  | .breaks first more => first ++ more

/-- Whether a line ends in the gap. -/
def Gap.hasBreak : Gap → Bool
  | .blanks _ => false
  | .breaks _ _ => true

/-- Reads the blanks and breaks from here on.  After a break, a tab before the column `margin` is
refused.  Every round takes a character, so the length of the rest is enough `fuel`. -/
def Cursor.gapFrom? (margin : Nat) : Nat → Gap → Cursor → Option (Gap × Cursor)
  | 0, gap, c => some (gap, c)
  | fuel + 1, gap, c =>
    match c.here with
    | none => some (gap, c)
    | some ch =>
      if isBlank ch then
        match gap with
        | .blanks text => gapFrom? margin fuel (.blanks (text ++ [ch])) (c.advance 1)
        | .breaks _ _ =>
          if ch = '\t' && c.column < margin then none else gapFrom? margin fuel gap (c.advance 1)
      else if isBreak ch then
        match gap with
        | .blanks _ => gapFrom? margin fuel (.breaks c.breakText []) c.nextLine
        | .breaks first more =>
          gapFrom? margin fuel (.breaks first (more ++ c.breakText)) c.nextLine
      else some (gap, c)

/-- Reads a gap that continues one already begun. -/
def Cursor.gap? (margin : Nat) (begun : Gap) (c : Cursor) : Option (Gap × Cursor) :=
  c.gapFrom? margin c.rest.length begun

end UiBinding.Yaml
