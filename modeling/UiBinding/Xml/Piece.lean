/-
The pieces a document is written in: tags, character data, comments and processing instructions.

A document type declaration is no piece, so a text with one is not read at all.
-/
import UiBinding.Xml.Reference

namespace UiBinding.Xml

/-- An attribute as written, its value with references expanded. -/
structure WrittenAttribute where
  name : QualifiedName
  value : String
  deriving DecidableEq, Repr

/-- A piece of a document. -/
inductive Piece where
  /-- A start tag; a tag that ends in `/>` is its own end tag. -/
  | start (name : QualifiedName) (attributes : List WrittenAttribute) (closed : Bool)
  | finish (name : QualifiedName)
  | text (content : String)
  | comment (content : String)
  | instruction (target : String) (content : String)
  deriving DecidableEq, Repr

/-! ### Attributes and tags -/

/-- Reads a quoted text, in which no `<` stands, up to and over the closing quote. -/
def quoted? (quote : Char) (s : List Char) : Option (Read s (List Char)) :=
  let inside := fun c => c != quote && c != '<'
  have := length_dropWhile_le inside s
  match char? quote (s.dropWhile inside) with
  | none => none
  | some r =>
    if (s.takeWhile inside).all isAllowed then
      some ⟨s.takeWhile inside, r.rest, by have := r.shorter; omega⟩
    else none

/-- Reads a name, an equals sign and a text in single or double quotes. -/
def assignment? (s : List Char) : Option (Read s (QualifiedName × List Char)) := do
  let name ← QualifiedName.read? s
  let equals ← char? '=' (skipSpaces name.rest)
  have := length_skipSpaces_le name.rest
  have := length_skipSpaces_le equals.rest
  match h : skipSpaces equals.rest with
  | quote :: value =>
    if quote = '"' || quote = '\'' then
      (quoted? quote value).map fun r => ⟨(name.value, r.value), r.rest, by
        have := name.shorter
        have := equals.shorter
        have := r.shorter
        simp [h] at *
        omega⟩
    else none
  | [] => none

/-- Reads an attribute. -/
def attribute? (s : List Char) : Option (Read s WrittenAttribute) := do
  let r ← assignment? s
  let value ← attributeValue? r.value.2
  return r.map fun a => ⟨a.1, String.ofList value⟩

/-- Reads the end of a start tag, and whether the tag closes its element. -/
def tagEnd? : (s : List Char) → Option (Read s Bool)
  | '/' :: '>' :: rest => some ⟨true, rest, Nat.lt_succ_of_lt (Nat.lt_succ_self _)⟩
  | '>' :: rest => some ⟨false, rest, Nat.lt_succ_self _⟩
  | _ => none

/-- Reads what follows the name in a start tag.  White space stands before every attribute. -/
def tagRest? (s : List Char) : Option (Read s (List WrittenAttribute × Bool)) :=
  have hspaces := length_skipSpaces_le s
  match tagEnd? (skipSpaces s) with
  | some r => some ⟨([], r.value), r.rest, by have := r.shorter; omega⟩
  | none =>
    if (skipSpaces s).length < s.length then
      match attribute? (skipSpaces s) with
      | none => none
      | some a =>
        have := a.shorter
        (tagRest? a.rest).map fun r =>
          ⟨(a.value :: r.value.1, r.value.2), r.rest, by have := r.shorter; omega⟩
    else none
termination_by s.length

/-- Reads what follows the `<` of a start tag. -/
def startTag? (s : List Char) : Option (Read s Piece) := do
  let name ← QualifiedName.read? s
  let rest ← tagRest? name.rest
  return ⟨.start name.value rest.value.1 rest.value.2, rest.rest, by
    have := name.shorter
    have := rest.shorter
    omega⟩

/-- Reads what follows the `</` of an end tag. -/
def endTag? (s : List Char) : Option (Read s Piece) := do
  let name ← QualifiedName.read? s
  have := length_skipSpaces_le name.rest
  let close ← char? '>' (skipSpaces name.rest)
  return ⟨.finish name.value, close.rest, by
    have := name.shorter
    have := close.shorter
    omega⟩

/-! ### The other pieces -/

/-- Reads what follows the `<!--` of a comment.  No two hyphens stand together in it, and none
stands at its end. -/
def comment? (s : List Char) : Option (Read s Piece) := do
  let r ← until? ['-', '-', '>'] (by simp) s
  if occurs ['-', '-'] r.value || r.value.getLast? = some '-' then none
  else return r.map fun content => .comment (String.ofList content)

/-- Reads what follows the `<![CDATA[` of a section in which nothing is markup. -/
def section? (s : List Char) : Option (Read s Piece) := do
  let r ← until? [']', ']', '>'] (by simp) s
  return r.map fun content => .text (String.ofList content)

/-- Whether a text begins as an XML declaration does, which stands only at the very start. -/
def beginsDeclaration (s : List Char) : Bool := (after? "<?xml ".toList s).isSome

/-- Reads what follows the `<?` of a processing instruction. -/
def instruction? (s : List Char) : Option (Read s Piece) := do
  let target ← plainName? s
  let content ← until? ['?', '>'] (by simp) (skipSpaces target.rest)
  return ⟨.instruction (String.ofList target.value) (String.ofList content.value), content.rest, by
    have := target.shorter
    have := content.shorter
    have := length_skipSpaces_le target.rest
    omega⟩

/-- Reads character data, which does not hold `]]>`. -/
def text? : (s : List Char) → Option (Read s Piece)
  | [] => none
  | c :: s =>
    let raw := c :: s.takeWhile (· != '<')
    have := length_dropWhile_le (· != '<') s
    if raw.all isAllowed && !occurs [']', ']', '>'] raw then
      (characterData? raw).map fun content =>
        ⟨.text (String.ofList content), s.dropWhile (· != '<'), by simp; omega⟩
    else none

/-- A piece read after a beginning is a piece read off the whole text. -/
def Read.after {start s rest : List Char} {α : Type} (r : Read rest α)
    (h : after? start s = some rest) : Read s α :=
  ⟨r.value, r.rest, by have := r.shorter; have := length_of_after? h; omega⟩

/-- Reads the piece that begins with a given text by the reader for what follows that text. -/
def readAfter? (start : String) (reader : (s : List Char) → Option (Read s Piece)) (s : List Char) :
    Option (Option (Read s Piece)) :=
  match h : after? start.toList s with
  | none => none
  | some rest => some ((reader rest).map (·.after h))

/-- Reads the next piece of a document. -/
def piece? (s : List Char) : Option (Read s Piece) :=
  if beginsDeclaration s then none
  else
    let readers := [readAfter? "<!--" comment?, readAfter? "<![CDATA[" section?,
      readAfter? "<?" instruction?, readAfter? "</" endTag?, readAfter? "<" startTag?]
    (readers.findSome? fun reader => reader s).getD (text? s)

end UiBinding.Xml
