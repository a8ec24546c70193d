/-
The character classes of YAML.  The end of the text counts as a break wherever a break or a blank
ends something; `none` stands for it.
-/

namespace UiBinding.Yaml

/-- A blank is a space or a tab. -/
def isBlank (c : Char) : Bool := c = ' ' || c = '\t'

/-- The characters that end a line. -/
def isBreak (c : Char) : Bool :=
  c = '\n' || c = '\r' || c = '\u0085' || c = '\u2028' || c = '\u2029'

/-- Whether a character separates words. -/
def isSeparator (c : Char) : Bool := isBlank c || isBreak c

/-- Whether a word ends here: at a blank, a break or the end of the text. -/
def endsWord : Option Char → Bool
  | none => true
  | some c => isSeparator c

/-- Whether a line ends here. -/
def endsLine : Option Char → Bool
  | none => true
  | some c => isBreak c

/-- The characters of names: letters, digits, hyphen and underscore. -/
def isWordCharacter (c : Char) : Bool := c.isAlphanum || c = '_' || c = '-'

/-- A text may hold the printable characters, tabs and line ends. -/
def isPrintable (c : Char) : Bool :=
  let n := c.toNat
  n = 0x9 || n = 0xA || n = 0xD || (0x20 ≤ n && n ≤ 0x7E) || n = 0x85 ||
    (0xA0 ≤ n && n ≤ 0xD7FF) || (0xE000 ≤ n && n ≤ 0xFFFD) || 0x10000 ≤ n

/-- The characters of tags outside of angle brackets, the percent sign of escapes among them. -/
def isTagCharacter (c : Char) : Bool :=
  isWordCharacter c || ";/?:@&=+$.%!~*'()".toList.contains c

/-- The indicators that end a word inside of brackets. -/
def isFlowIndicator (c : Char) : Bool := [',', '[', ']', '{', '}'].contains c

/-- The indicators that no plain scalar begins with. -/
def isIndicator (c : Char) : Bool :=
  isFlowIndicator c || "-?:#&*!|>'\"%@\x60".toList.contains c

/-- The value of a hexadecimal digit. -/
def hexDigit? (c : Char) : Option Nat :=
  if c.isDigit then some (c.toNat - '0'.toNat)
  else if 'a' ≤ c && c ≤ 'f' then some (c.toNat - 'a'.toNat + 10)
  else if 'A' ≤ c && c ≤ 'F' then some (c.toNat - 'A'.toNat + 10)
  else none

end UiBinding.Yaml
