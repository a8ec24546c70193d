/-
The character classes of XML: white space, the characters that a document may hold, and those that
may begin and continue a name.
-/

namespace UiBinding.Xml

/-- White space is a blank, a tab, a line feed or a carriage return. -/
def isSpace (c : Char) : Bool := c = ' ' || c = '\t' || c = '\n' || c = '\r'

/-- A document holds every character but the control characters that are no white space, U+FFFE
and U+FFFF. -/
def isAllowed (c : Char) : Bool :=
  if c.val < 0x20 then isSpace c else c.val != 0xFFFE && c.val != 0xFFFF

/-- Whether a code point lies in one of the closed ranges. -/
def inRanges (ranges : List (Nat × Nat)) (n : Nat) : Bool :=
  ranges.any fun r => r.1 ≤ n && n ≤ r.2

/-- The ranges of characters beyond ASCII that may begin a name. -/
def nameStartRanges : List (Nat × Nat) :=
  [(0xC0, 0xD6), (0xD8, 0xF6), (0xF8, 0x2FF), (0x370, 0x37D), (0x37F, 0x1FFF), (0x200C, 0x200D),
   (0x2070, 0x218F), (0x2C00, 0x2FEF), (0x3001, 0xD7FF), (0xF900, 0xFDCF), (0xFDF0, 0xFFFD),
   (0x10000, 0xEFFFF)]

/-- The ranges of characters beyond ASCII that may continue a name but not begin it. -/
def nameContinueRanges : List (Nat × Nat) := [(0xB7, 0xB7), (0x300, 0x36F), (0x203F, 0x2040)]

/-- Whether a character may begin a name. -/
def isNameStart (c : Char) : Bool :=
  c.isAlpha || c = '_' || c = ':' || inRanges nameStartRanges c.toNat

/-- Whether a character may continue a name. -/
def isName (c : Char) : Bool :=
  isNameStart c || c.isDigit || c = '-' || c = '.' || inRanges nameContinueRanges c.toNat

end UiBinding.Xml
