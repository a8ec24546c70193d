/-
The characters with the Unicode property White_Space.
-/

namespace UiBinding.Text

/-- Whether a character has the property White_Space. -/
def isWhiteSpace (c : Char) : Bool :=
  let n := c.toNat
  (0x9 ≤ n && n ≤ 0xD) || n = 0x20 || n = 0x85 || n = 0xA0 || n = 0x1680 ||
    (0x2000 ≤ n && n ≤ 0x200A) || n = 0x2028 || n = 0x2029 || n = 0x202F || n = 0x205F || n = 0x3000

/-- Whether a text holds nothing but white space. -/
def isBlankText (s : String) : Bool := s.toList.all isWhiteSpace

end UiBinding.Text
