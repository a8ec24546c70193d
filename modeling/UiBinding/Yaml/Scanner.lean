/-
From a text to its tokens.

The indentation of a line opens and closes blocks, so the scanner keeps the columns of the blocks
that are open.  Whether a scalar is a key shows only at the colon behind it; until then the place
where it begins is remembered, for every level of brackets one, and the colon puts a key token
there.

* `tokens?` gives the tokens of a text, or nothing if the text cannot be divided into tokens.
-/
import UiBinding.Yaml.Property
import UiBinding.Yaml.Scalar

namespace UiBinding.Yaml

/-- A place where a key may begin. -/
structure PossibleKey where
  /-- Nothing but a key may stand at the column of a block. -/
  required : Bool
  /-- The number of tokens before it. -/
  position : Nat
  place : Cursor

/-- The state of the scanner. -/
structure Scanner where
  cursor : Cursor
  tokens : Array Token
  /-- The column of the innermost block, -1 outside of all blocks. -/
  indent : Int
  /-- The columns of the blocks around it, innermost first. -/
  outer : List Int
  /-- Whether a key may begin here. -/
  keyAllowed : Bool
  /-- Where a key may have begun, for every open bracket and for the block around them, innermost
  first. -/
  keys : List (Option PossibleKey)

namespace Scanner

/-- The scanner before the first character. -/
def start (text : List Char) : Scanner := ⟨.start text, #[], -1, [], true, [none]⟩

/-- Whether the scanner stands inside of brackets. -/
def inFlow (s : Scanner) : Bool := 1 < s.keys.length

/-- Adds a token. -/
def emit (s : Scanner) (t : Token) : Scanner := { s with tokens := s.tokens.push t }

/-- Adds a token of given width. -/
def take (s : Scanner) (t : Token) (width : Nat) : Scanner :=
  { s with tokens := s.tokens.push t, cursor := s.cursor.advance width }

/-- Sets whether a key may begin here. -/
def allowKey (s : Scanner) (allowed : Bool) : Scanner := { s with keyAllowed := allowed }

/-! ### Blocks -/

/-- How many blocks lie right of a column, and the columns that remain. -/
def closing (column : Int) : Int → List Int → Nat × Int × List Int
  | indent, [] => (0, indent, [])
  | indent, parent :: outer =>
    if column < indent then
      let (n, rest) := closing column parent outer
      (n + 1, rest)
    else (0, indent, parent :: outer)

/-- Closes the blocks right of a column. -/
def unroll (s : Scanner) (column : Int) : Scanner :=
  if s.inFlow then s
  else
    let (n, indent, outer) := closing column s.indent s.outer
    { s with tokens := s.tokens ++ Array.replicate n .blockEnd, indent, outer }

/-- Opens a block at a column right of the innermost one, with its token at a position. -/
def roll (s : Scanner) (column position : Nat) (t : Token) : Scanner :=
  if s.inFlow || column ≤ s.indent then s
  else { s with
    tokens := s.tokens.insertIdxIfInBounds position t
    indent := column
    outer := s.indent :: s.outer }

/-! ### Keys -/

/-- Forgets the possible key of the innermost level.  A required one has to become a key. -/
def dropKey? (s : Scanner) : Option Scanner :=
  match s.keys with
  | [] => some s
  | key :: rest => if key.any (·.required) then none else some { s with keys := none :: rest }

/-- Remembers that a key may begin here. -/
def saveKey? (s : Scanner) : Option Scanner :=
  if s.keyAllowed then do
    let required := !s.inFlow && s.indent = s.cursor.column
    let s ← s.dropKey?
    return { s with keys := some ⟨required, s.tokens.size, s.cursor⟩ :: s.keys.drop 1 }
  else some s

/-- Forgets the possible keys that lie on an earlier line or more than 1024 bytes back. -/
def dropStaleKeys? (s : Scanner) : Option Scanner := do
  let keys ← s.keys.mapM fun
    | none => some none
    | some key =>
      if key.place.line < s.cursor.line || key.place.index + 1024 < s.cursor.index then
        if key.required then none else some none
      else some (some key)
  return { s with keys }

/-! ### Single tokens -/

/-- Skips blanks, comments and line ends.  A tab is no indentation, so where a key may begin in a
block tabs are left standing.  A byte order mark may begin a line, where it takes a column. -/
def toNextToken : Nat → Scanner → Scanner
  | 0, s => s
  | fuel + 1, s =>
    let c := if s.cursor.column = 0 && s.cursor.at? '\uFEFF' then s.cursor.advance 1 else s.cursor
    let c := c.skip fun ch => ch = ' ' || ((s.inFlow || !s.keyAllowed) && ch = '\t')
    let c := if c.at? '#' then c.skip (!isBreak ·) else c
    if c.within isBreak then
      toNextToken fuel { s with cursor := c.nextLine, keyAllowed := s.keyAllowed || !s.inFlow }
    else { s with cursor := c }

/-- Ends all blocks before a directive or a document marker. -/
def leaveBlocks? (s : Scanner) : Option Scanner := do
  let s ← (s.unroll (-1)).dropKey?
  return s.allowKey false

/-- Opens a bracket. -/
def openFlow? (s : Scanner) (t : Token) : Option Scanner := do
  let s ← s.saveKey?
  return { s with keys := none :: s.keys }.allowKey true |>.take t 1

/-- Closes a bracket. -/
def closeFlow? (s : Scanner) (t : Token) : Option Scanner := do
  let s ← s.dropKey?
  let keys := if s.inFlow then s.keys.drop 1 else s.keys
  return { s with keys }.allowKey false |>.take t 1

/-- The hyphen before an item; in a block it stands where a key might. -/
def blockEntry? (s : Scanner) : Option Scanner := do
  if !s.inFlow && !s.keyAllowed then none
  else
    let s ← (s.roll s.cursor.column s.tokens.size .blockSequenceStart).dropKey?
    return (s.allowKey true).take .blockEntry 1

/-- The question mark before a key. -/
def explicitKey? (s : Scanner) : Option Scanner := do
  if !s.inFlow && !s.keyAllowed then none
  else
    let s ← (s.roll s.cursor.column s.tokens.size .blockMappingStart).dropKey?
    return (s.allowKey !s.inFlow).take .key 1

/-- The colon behind a key.  If a key may have begun before it on this line, it did. -/
def value? (s : Scanner) : Option Scanner :=
  match s.keys.head?.join with
  | some key =>
    let s := { s with
      tokens := s.tokens.insertIdxIfInBounds key.position .key
      keys := none :: s.keys.drop 1 }
    some (((s.roll key.place.column key.position .blockMappingStart).allowKey false).take .value 1)
  | none =>
    if !s.inFlow && !s.keyAllowed then none
    else
      let s := s.roll s.cursor.column s.tokens.size .blockMappingStart
      some ((s.allowKey !s.inFlow).take .value 1)

/-- A token that a key may begin with. -/
def keyLike? (s : Scanner) (read : Option (Token × Cursor)) : Option Scanner := do
  let s ← s.saveKey?
  let (t, cursor) ← read
  return { s.emit t with cursor }.allowKey false

/-- A plain scalar.  After a line break behind it a key may begin. -/
def plainToken? (s : Scanner) : Option Scanner := do
  let s ← s.saveKey?
  let p ← plain? s.inFlow (s.indent + 1).toNat s.cursor
  let s := { s.emit (.scalar (String.ofList p.text) .plain) with cursor := p.cursor }
  return s.allowKey p.gap.hasBreak

/-- A scalar after `|` or `>`. -/
def blockToken? (s : Scanner) (literal : Bool) : Option Scanner := do
  let s ← s.dropKey?
  let (text, cursor) ← block? literal s.indent s.cursor
  let style := if literal then ScalarStyle.literal else .folded
  return { s.emit (.scalar (String.ofList text) style) with cursor }.allowKey true

/-- Whether a plain scalar begins with a character here. -/
def beginsPlain (s : Scanner) (ch : Char) : Bool :=
  let next := s.cursor.ahead 1
  !(isSeparator ch || isIndicator ch) || (ch = '-' && !next.any isBlank) ||
    (!s.inFlow && (ch = '?' || ch = ':') && !endsWord next)

/-- Reads the token that begins here. -/
def token? (s : Scanner) (ch : Char) : Option Scanner :=
  let c := s.cursor
  let alone := s.inFlow || endsWord (c.ahead 1)
  if c.column = 0 && ch = '%' then do
    let s ← s.leaveBlocks?
    let (t, cursor) ← directive? s.cursor
    return { s.emit t with cursor }
  else if c.atMarker '-' then s.leaveBlocks?.map (·.take .documentStart 3)
  else if c.atMarker '.' then s.leaveBlocks?.map (·.take .documentEnd 3)
  else if ch = '[' then s.openFlow? .flowSequenceStart
  else if ch = '{' then s.openFlow? .flowMappingStart
  else if ch = ']' then s.closeFlow? .flowSequenceEnd
  else if ch = '}' then s.closeFlow? .flowMappingEnd
  else if ch = ',' then s.dropKey?.map fun s => (s.allowKey true).take .flowEntry 1
  else if ch = '-' && endsWord (c.ahead 1) then s.blockEntry?
  else if ch = '?' && alone then s.explicitKey?
  else if ch = ':' && alone then s.value?
  else if ch = '*' then s.keyLike? ((anchorName? c).map fun r => (.alias r.1, r.2))
  else if ch = '&' then s.keyLike? ((anchorName? c).map fun r => (.anchor r.1, r.2))
  else if ch = '!' then s.keyLike? (tag? s.inFlow c)
  else if ch = '|' && !s.inFlow then s.blockToken? true
  else if ch = '>' && !s.inFlow then s.blockToken? false
  else if ch = '\'' || ch = '"' then
    s.keyLike? ((quoted? ch c).map fun r => (.scalar (String.ofList r.1) .quoted, r.2))
  else if s.beginsPlain ch then s.plainToken?
  else none

/-- Reads tokens to the end of the text.  Every token takes at least one character. -/
def run? : Nat → Scanner → Option Scanner
  | 0, _ => none
  | fuel + 1, s => do
    let s ← (toNextToken (s.cursor.rest.length + 1) s).dropStaleKeys?
    let s := s.unroll s.cursor.column
    match s.cursor.here with
    | none => (s.unroll (-1)).dropKey?
    | some ch =>
      let s ← s.token? ch
      run? fuel s

end Scanner

/-- The tokens of a text.  Every character has to be printable. -/
def tokens? (text : String) : Option (List Token) :=
  let chars := text.toList
  if chars.all isPrintable then
    (Scanner.run? (chars.length + 1) (.start chars)).map (·.tokens.toList)
  else none

end UiBinding.Yaml
