/-
References and the values they stand in: `&lt;` and its four companions, `&#38;`, `&#x26;`.

Attribute values and character data differ in what becomes of line ends: in a value every tab and
line end is a blank, in character data every line end is a line feed.  A character that is written
as a reference stays as it is in both.
-/
import UiBinding.Xml.Name

namespace UiBinding.Xml

/-- The entities that need no declaration. -/
def namedEntity? (name : List Char) : Option Char :=
  match String.ofList name with
  | "lt" => some '<'
  | "gt" => some '>'
  | "amp" => some '&'
  | "quot" => some '"'
  | "apos" => some '\''
  | _ => none

/-- The value of a hexadecimal digit. -/
def hexDigit? (c : Char) : Option Nat :=
  if c.isDigit then some (c.toNat - '0'.toNat)
  else if 'a' ≤ c && c ≤ 'f' then some (c.toNat - 'a'.toNat + 10)
  else if 'A' ≤ c && c ≤ 'F' then some (c.toNat - 'A'.toNat + 10)
  else none

/-- Whether a character is a hexadecimal digit. -/
def isHexDigit (c : Char) : Bool := (hexDigit? c).isSome

/-- The number that digits of a base stand for; there is at least one digit. -/
def numeral? (base : Nat) (digits : List Char) : Option Nat :=
  if digits.isEmpty then none
  else digits.foldlM (fun n c => (hexDigit? c).map (base * n + ·)) 0

/-- The character of a code point.  A number up to 32 bits that is no character stands for the
replacement character; a character that a document may not hold cannot be referred to either. -/
def charOfReference? (n : Nat) : Option Char :=
  if n < 0x100000000 then
    let c := if h : n.isValidChar then Char.ofNatAux n h else '\uFFFD'
    if isAllowed c then some c else none
  else none

/-- Reads what follows the ampersand of a reference, with the semicolon. -/
def reference? : (s : List Char) → Option (Read s Char)
  | '#' :: 'x' :: s =>
    have := length_dropWhile_le isHexDigit s
    match numeral? 16 (s.takeWhile isHexDigit) >>= charOfReference?,
      char? ';' (s.dropWhile isHexDigit) with
    | some c, some r => some ⟨c, r.rest, by have := r.shorter; simp; omega⟩
    | _, _ => none
  | '#' :: s =>
    have := length_dropWhile_le Char.isDigit s
    match numeral? 10 (s.takeWhile Char.isDigit) >>= charOfReference?,
      char? ';' (s.dropWhile Char.isDigit) with
    | some c, some r => some ⟨c, r.rest, by have := r.shorter; simp; omega⟩
    | _, _ => none
  | s =>
    match plainName? s with
    | none => none
    | some name =>
      match namedEntity? name.value, char? ';' name.rest with
      | some c, some r => some ⟨c, r.rest, by have := r.shorter; have := name.shorter; omega⟩
      | _, _ => none

/-- The value of an attribute from the text between its quotes. -/
def attributeValue? (s : List Char) : Option (List Char) :=
  match s with
  | [] => some []
  | '&' :: rest =>
    match reference? rest with
    | none => none
    | some r =>
      have := r.shorter
      (attributeValue? r.rest).map (r.value :: ·)
  | '\r' :: '\n' :: rest => (attributeValue? rest).map (' ' :: ·)
  | c :: rest => (attributeValue? rest).map ((if isSpace c then ' ' else c) :: ·)
termination_by s.length

/-- Character data from the text between two tags. -/
def characterData? (s : List Char) : Option (List Char) :=
  match s with
  | [] => some []
  | '&' :: rest =>
    match reference? rest with
    | none => none
    | some r =>
      have := r.shorter
      (characterData? r.rest).map (r.value :: ·)
  | '\r' :: '\n' :: rest => (characterData? rest).map ('\n' :: ·)
  | c :: rest => (characterData? rest).map ((if c = '\r' then '\n' else c) :: ·)
termination_by s.length

end UiBinding.Xml
