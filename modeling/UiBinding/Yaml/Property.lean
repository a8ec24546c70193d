/-
Reading what is marked by a character of its own: directives, tags, anchors and aliases.
-/
import UiBinding.Yaml.Token

namespace UiBinding.Yaml

/-! ### Tags -/

/-- The byte that an escape stands for. -/
def escapedOctet? : List Char → Option (Nat × List Char)
  | '%' :: a :: b :: rest => do
    let high ← hexDigit? a
    let low ← hexDigit? b
    return (16 * high + low, rest)
  | _ => none

/-- How many bytes follow the first byte of a character. -/
def followers? (octet : Nat) : Option Nat :=
  if octet < 0x80 then some 0
  else if octet / 0x20 = 0x6 then some 1
  else if octet / 0x10 = 0xE then some 2
  else if octet / 0x8 = 0x1E then some 3
  else none

/-- The bytes of an escaped character behind its first byte. -/
def escapedFollowers? : Nat → List Char → Option (TagText × List Char)
  | 0, s => some ([], s)
  | more + 1, s => do
    let (octet, rest) ← escapedOctet? s
    if octet / 0x40 != 0x2 then none
    else
      let (bytes, rest) ← escapedFollowers? more rest
      return (octet.toUInt8 :: bytes, rest)

/-- The bytes of an escaped character: `%C3%A9` is one character of two bytes.  Bytes that only
look like a character, as those of a surrogate do, are taken as well. -/
def escapedBytes? (s : List Char) : Option (TagText × List Char) := do
  let (octet, rest) ← escapedOctet? s
  let more ← followers? octet
  let (bytes, rest) ← escapedFollowers? more rest
  return (octet.toUInt8 :: bytes, rest)

/-- Reads the characters of a tag, with their escapes taken out.  Inside of angle brackets a tag
may also hold a comma and square brackets. -/
def tagText? (bracketed : Bool) : Nat → List Char → Option (TagText × List Char)
  | 0, s => some ([], s)
  | fuel + 1, s =>
    match s with
    | [] => some ([], [])
    | c :: rest =>
      if c = '%' then do
        let (bytes, rest) ← escapedBytes? s
        let (more, rest) ← tagText? bracketed fuel rest
        return (bytes ++ more, rest)
      else if isTagCharacter c || (bracketed && [',', '[', ']'].contains c) then do
        let (more, rest) ← tagText? bracketed fuel rest
        return (String.utf8EncodeChar c ++ more, rest)
      else some ([], s)

/-- Reads the text of a tag from a cursor.  A zero byte in it, which an escape may spell, ends the
tag, and what is written behind it is passed over. -/
def tagUri? (bracketed : Bool) (c : Cursor) : Option (TagText × Cursor) := do
  let (bytes, rest) ← tagText? bracketed c.rest.length c.rest
  return (bytes.takeWhile (· != 0), c.advance (c.rest.length - rest.length))

/-- Reads a handle: an exclamation mark, letters, and a second exclamation mark if there is one. -/
def tagHandle? (c : Cursor) : Option (List Char × Cursor) :=
  if c.at? '!' then
    let name := (c.advance 1).run isWordCharacter
    let c := c.advance (1 + name.length)
    if c.at? '!' then some ('!' :: name ++ ['!'], c.advance 1) else some ('!' :: name, c)
  else none

/-- Whether a handle ends in an exclamation mark of its own. -/
def isNamedHandle (handle : List Char) : Bool := 1 < handle.length && handle.getLast? = some '!'

/-- Reads a tag.  Without a named handle the letters of the handle belong to the suffix, and a lone
exclamation mark is a tag that needs no handle. -/
def tag? (inFlow : Bool) (c : Cursor) : Option (Token × Cursor) := do
  let (token, c) ←
    if c.ahead 1 = some '<' then do
      let start := c.advance 2
      let (uri, next) ← tagUri? true start
      if next.index = start.index || !next.at? '>' then none
      else some (Token.tag "" uri, next.advance 1)
    else do
      let (handle, start) ← tagHandle? c
      let (suffix, next) ← tagUri? false start
      if isNamedHandle handle then
        if next.index = start.index then none
        else some (Token.tag (String.ofList handle) suffix, next)
      else
        let whole := TagText.ofString (String.ofList (handle.drop 1)) ++ suffix
        some (if whole.isEmpty then .tag "" (.ofString "!") else .tag "!" whole, next)
  if endsWord c.here || (inFlow && c.at? ',') then some (token, c) else none

/-! ### Anchors and aliases -/

/-- The characters that may follow the name of an anchor directly. -/
def endsAnchor (c : Option Char) : Bool :=
  endsWord c || c.any fun ch => "?:,]\x7d%@\x60".toList.contains ch

/-- Reads the name of an anchor or alias. -/
def anchorName? (c : Cursor) : Option (String × Cursor) :=
  let name := (c.advance 1).run isWordCharacter
  let next := c.advance (1 + name.length)
  if name.isEmpty || !endsAnchor next.here then none else some (String.ofList name, next)

/-! ### Directives -/

/-- Reads a number of at most nine digits. -/
def versionNumber? (c : Cursor) : Option (Nat × Cursor) :=
  let digits := c.run Char.isDigit
  if digits.isEmpty || 9 < digits.length then none
  else some (digits.foldl (fun n d => 10 * n + (d.toNat - '0'.toNat)) 0, c.advance digits.length)

/-- Reads the two numbers of a version. -/
def version? (c : Cursor) : Option (Token × Cursor) := do
  let (major, c) ← versionNumber? (c.skip isBlank)
  if c.at? '.' then
    let (minor, c) ← versionNumber? (c.advance 1)
    return (.version major minor, c)
  else none

/-- Reads a handle and the text it stands for. -/
def tagPrefix? (c : Cursor) : Option (Token × Cursor) := do
  let (handle, c) ← tagHandle? (c.skip isBlank)
  if !isNamedHandle handle && handle.length != 1 then none
  else if c.within isBlank then
    let start := c.skip isBlank
    let (uri, next) ← tagUri? true start
    if next.index = start.index || !endsWord next.here then none
    else some (.tagPrefix (String.ofList handle) uri, next)
  else none

/-- Reads a directive with its line end.  There are two directives. -/
def directive? (c : Cursor) : Option (Token × Cursor) := do
  let name := (c.advance 1).run isWordCharacter
  let afterName := c.advance (1 + name.length)
  if !endsWord afterName.here then none
  else
    let (token, c) ← match String.ofList name with
      | "YAML" => version? afterName
      | "TAG" => tagPrefix? afterName
      | _ => none
    let c := c.skipComment
    if endsLine c.here then some (token, c.pastBreak) else none

end UiBinding.Yaml
