/-
Reading scalars: plain words, quoted text and indented blocks.

Each reader gives the value and the place after it.  Loops over the lines of a scalar take their
fuel from the length of the rest, since every round takes at least one character.
-/
import UiBinding.Yaml.Token

namespace UiBinding.Yaml

/-! ### Plain scalars -/

/-- The word at the front of a text.  A colon before a blank ends it, and inside of brackets a flow
indicator does; there a colon right before an indicator is refused. -/
def plainWord? (inFlow : Bool) : List Char → Option (List Char)
  | [] => some []
  | c :: rest =>
    if isSeparator c then some []
    else if inFlow && c = ':' && rest.head?.any (fun d => isFlowIndicator d || d = '?') then none
    else if c = ':' && endsWord rest.head? then some []
    else if inFlow && isFlowIndicator c then some []
    else (plainWord? inFlow rest).map (c :: ·)

/-- A plain scalar as read so far. -/
structure PlainScalar where
  text : List Char
  /-- What was read behind the last word. -/
  gap : Gap
  cursor : Cursor

/-- Reads the words of a plain scalar.  In a block every further line is indented by `margin`. -/
def PlainScalar.extend? (inFlow : Bool) (margin : Nat) : Nat → PlainScalar → Option PlainScalar
  | 0, p => some p
  | fuel + 1, p =>
    if p.cursor.atDocumentMarker || p.cursor.at? '#' then some p
    else do
      let word ← plainWord? inFlow p.cursor.rest
      let cursor := p.cursor.advance word.length
      let q := if word.isEmpty then p else ⟨p.text ++ p.gap.text ++ word, .blanks [], cursor⟩
      if cursor.within isSeparator then
        let (gap, next) ← cursor.gap? margin (.blanks [])
        let r : PlainScalar := ⟨q.text, gap, next⟩
        if !inFlow && next.column < margin then some r else extend? inFlow margin fuel r
      else some q

/-- Reads a plain scalar. -/
def plain? (inFlow : Bool) (margin : Nat) (c : Cursor) : Option PlainScalar :=
  PlainScalar.extend? inFlow margin (c.rest.length + 1) ⟨[], .blanks [], c⟩

/-! ### Quoted scalars -/

/-- The character of a code point that is written in an escape. -/
def escapedCodePoint? (digits : List Char) (width : Nat) : Option Char :=
  if digits.length = width then
    match digits.foldlM (fun n c => (hexDigit? c).map (16 * n + ·)) 0 with
    | some n => if h : n.isValidChar then some (Char.ofNatAux n h) else none
    | none => none
  else none

/-- What an escape stands for, and how many characters follow its letter. -/
def escape? (letter : Char) (rest : List Char) : Option (Char × Nat) :=
  match letter with
  | '0' => some ('\x00', 0)
  | 'a' => some ('\x07', 0)
  | 'b' => some ('\x08', 0)
  | 't' => some ('\t', 0)
  | '\t' => some ('\t', 0)
  | 'n' => some ('\n', 0)
  | 'v' => some ('\x0b', 0)
  | 'f' => some ('\x0c', 0)
  | 'r' => some ('\r', 0)
  | 'e' => some ('\x1b', 0)
  | ' ' => some (' ', 0)
  | '"' => some ('"', 0)
  | '/' => some ('/', 0)
  | '\\' => some ('\\', 0)
  | 'N' => some ('\u0085', 0)
  | '_' => some ('\u00a0', 0)
  | 'L' => some ('\u2028', 0)
  | 'P' => some ('\u2029', 0)
  | 'x' => (escapedCodePoint? (rest.take 2) 2).map (·, 2)
  | 'u' => (escapedCodePoint? (rest.take 4) 4).map (·, 4)
  | 'U' => (escapedCodePoint? (rest.take 8) 8).map (·, 8)
  | _ => none

/-- A word of a quoted scalar. -/
structure QuotedWord where
  text : List Char
  /-- How many characters it takes. -/
  width : Nat
  /-- Whether a backslash joins the next line to it. -/
  joined : Bool

/-- The word with one more character before it. -/
def QuotedWord.cons (c : Char) (width : Nat) (w : QuotedWord) : QuotedWord :=
  ⟨c :: w.text, w.width + width, w.joined⟩

/-- The word at the front of a text in quotes. -/
def quotedWord? (quote : Char) (s : List Char) : Option QuotedWord :=
  match s with
  | [] => some ⟨[], 0, false⟩
  | c :: rest =>
    if isSeparator c then some ⟨[], 0, false⟩
    else if c = quote then
      match rest with
      | '\'' :: more =>
        if quote = '\'' then (quotedWord? quote more).map (.cons '\'' 2) else some ⟨[], 0, false⟩
      | _ => some ⟨[], 0, false⟩
    else if quote = '"' && c = '\\' then
      match rest with
      | [] => none
      | letter :: more =>
        if isBreak letter then some ⟨[], 1, true⟩
        else
          match escape? letter more with
          | none => none
          | some (d, width) =>
            have := List.length_drop (i := width) (l := more)
            (quotedWord? quote (more.drop width)).map (.cons d (2 + width))
    else (quotedWord? quote rest).map (.cons c 1)
termination_by s.length

/-- Reads the words of a quoted scalar up to and over its closing quote. -/
def quotedFrom? (quote : Char) : Nat → List Char → Cursor → Option (List Char × Cursor)
  | 0, _, _ => none
  | fuel + 1, text, c =>
    if c.atDocumentMarker then none
    else do
      let word ← quotedWord? quote c.rest
      let text := text ++ word.text
      let c := c.advance word.width
      if c.at? quote then some (text, c.advance 1)
      else if c.rest.isEmpty then none
      else
        let (gap, next) ←
          if word.joined then c.nextLine.gap? 0 (.breaks [] []) else c.gap? 0 (.blanks [])
        quotedFrom? quote fuel (text ++ gap.text) next

/-- Reads a quoted scalar. -/
def quoted? (quote : Char) (c : Cursor) : Option (List Char × Cursor) :=
  let c := c.advance 1
  quotedFrom? quote (c.rest.length + 1) [] c

/-! ### Block scalars -/

/-- What becomes of the line ends behind the last line. -/
inductive Chomping where
  | strip
  | clip
  | keep
  deriving DecidableEq, Repr

/-- The chomping indicator here, if any. -/
def chomping? (c : Cursor) : Option Chomping :=
  if c.at? '+' then some .keep else if c.at? '-' then some .strip else none

/-- The indentation indicator here, if any.  It is not zero. -/
def indentation? (c : Cursor) : Option (Option Nat) :=
  match c.here with
  | some d =>
    if !d.isDigit then some none
    else if d = '0' then none
    else some (some (d.toNat - '0'.toNat))
  | none => some none

/-- Reads the two indicators, in either order. -/
def blockHeader? (c : Cursor) : Option (Chomping × Option Nat × Cursor) :=
  match chomping? c with
  | some chomping => do
    let c := c.advance 1
    let indentation ← indentation? c
    return (chomping, indentation, if indentation.isSome then c.advance 1 else c)
  | none => do
    match ← indentation? c with
    | none => return (.clip, none, c)
    | some n =>
      let c := c.advance 1
      match chomping? c with
      | some chomping => return (chomping, some n, c.advance 1)
      | none => return (.clip, some n, c)

/-- Reads the empty lines from here on, with the indentation of the line after them.  While the
indentation of the block is unknown (`none`), the widest one met is tracked. -/
def emptyLines? (indent : Option Nat) :
    Nat → Nat → List Char → Cursor → Option (Nat × List Char × Cursor)
  | 0, widest, breaks, c => some (widest, breaks, c)
  | fuel + 1, widest, breaks, c =>
    let spaces := (c.run (· = ' ')).length
    let c := c.advance (match indent with
      | none => spaces
      | some n => min spaces (n - c.column))
    let widest := max widest c.column
    let short := match indent with
      | none => true
      | some n => c.column < n
    if short && c.at? '\t' then none
    else if c.within isBreak then emptyLines? indent fuel widest (breaks ++ c.breakText) c.nextLine
    else some (widest, breaks, c)

/-- A block scalar as read so far. -/
structure BlockScalar where
  text : List Char
  /-- The line end behind the last line. -/
  lineEnd : List Char
  /-- The empty lines after it. -/
  breaks : List Char
  /-- Whether the last line begins with a blank. -/
  indented : Bool
  cursor : Cursor

/-- Reads the lines of a block scalar whose indentation is known.  Between two lines that do not
begin with a blank a folded block has a space for a single line break. -/
def BlockScalar.extend? (literal : Bool) (indent : Nat) : Nat → BlockScalar → Option BlockScalar
  | 0, b => some b
  | fuel + 1, b =>
    if b.cursor.column = indent && !b.cursor.rest.isEmpty then do
      let indented := b.cursor.within isBlank
      let join :=
        if !literal && b.lineEnd = ['\n'] && !b.indented && !indented then
          if b.breaks.isEmpty then [' '] else []
        else b.lineEnd
      let line := b.cursor.run (!isBreak ·)
      let c := b.cursor.advance line.length
      let (_, breaks, next) ← emptyLines? (some indent) (c.rest.length + 1) 0 [] c.pastBreak
      extend? literal indent fuel
        ⟨b.text ++ join ++ b.breaks ++ line, c.breakText, breaks, indented, next⟩
    else some b

/-- Reads a block scalar inside a block of indentation `parent`, which is -1 outside of all
blocks. -/
def block? (literal : Bool) (parent : Int) (c : Cursor) : Option (List Char × Cursor) := do
  let (chomping, indentation, c) ← blockHeader? (c.advance 1)
  let c := c.skipComment
  if endsLine c.here then
    let c := c.pastBreak
    let given := indentation.map fun n => (max parent 0).toNat + n
    let (widest, breaks, c) ← emptyLines? given (c.rest.length + 1) 0 [] c
    let indent := given.getD (max widest (max (parent + 1) 1).toNat)
    let b ← BlockScalar.extend? literal indent (c.rest.length + 1) ⟨[], [], breaks, false, c⟩
    let lineEnd := if chomping = .strip then [] else b.lineEnd
    let breaks := if chomping = .keep then b.breaks else []
    return (b.text ++ lineEnd ++ breaks, b.cursor)
  else none

end UiBinding.Yaml
