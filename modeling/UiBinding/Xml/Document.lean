/-
Documents: the tree of a well-formed text, with everything that stands between its elements.

* `Document.read?` gives the tree of a text, or nothing if the text is not well formed.

Inside the root element the reader keeps the elements that are still open, innermost first, so its
loop over the pieces needs no recursion into the tree.
-/
import UiBinding.Xml.Scope

namespace UiBinding.Xml

/-- A node of a document. -/
inductive Node where
  | element (tag : Tag) (children : List Node)
  | text (content : String)
  | comment (content : String)
  | instruction (target : String) (content : String)
  deriving Repr

/-- A document: one root element, with comments and processing instructions around it. -/
structure Document where
  prolog : List Node
  root : Tag
  content : List Node
  epilog : List Node
  deriving Repr

/-! ### Inside the root element -/

/-- An element whose end tag has not been met. -/
structure OpenElement where
  /-- The name that the end tag has to repeat. -/
  name : QualifiedName
  tag : Tag
  scope : Scope
  /-- The children met so far, last one first. -/
  children : List Node

/-- The element with one more child. -/
def OpenElement.add (e : OpenElement) (child : Node) : OpenElement :=
  { e with children := child :: e.children }

/-- The element as it is when its end tag is met. -/
def OpenElement.close (e : OpenElement) : Node := .element e.tag e.children.reverse

/-- Reads to the end tag of the outermost open element; gives the children of that element. -/
def content? (inner : OpenElement) (outer : List OpenElement) (s : List Char) :
    Option (List Node × List Char) :=
  match piece? s with
  | none => none
  | some r =>
    have := r.shorter
    match r.value with
    | .start name attributes closed =>
      match inner.scope.enter? name attributes with
      | none => none
      | some (tag, scope) =>
        if closed then content? (inner.add (.element tag [])) outer r.rest
        else content? ⟨name, tag, scope, []⟩ (inner :: outer) r.rest
    | .finish name =>
      if name = inner.name then
        match outer with
        | [] => some (inner.children.reverse, r.rest)
        | parent :: outer => content? (parent.add inner.close) outer r.rest
      else none
    | .text content => content? (inner.add (.text content)) outer r.rest
    | .comment content => content? (inner.add (.comment content)) outer r.rest
    | .instruction target content => content? (inner.add (.instruction target content)) outer r.rest
termination_by s.length

/-! ### Around the root element -/

/-- Reads comments and processing instructions, with white space between them, as far as they
reach. -/
def miscellany? (s : List Char) : Option (List Node × List Char) :=
  have := length_skipSpaces_le s
  if (after? "<!--".toList (skipSpaces s)).isSome || (after? "<?".toList (skipSpaces s)).isSome then
    match piece? (skipSpaces s) with
    | none => none
    | some r =>
      have := r.shorter
      let node := match r.value with
        | .instruction target content => Node.instruction target content
        | .comment content => Node.comment content
        | _ => Node.text ""
      (miscellany? r.rest).map fun more => (node :: more.1, more.2)
  else some ([], skipSpaces s)
termination_by s.length

/-- What may follow a part of the declaration: white space, which is skipped, or its end. -/
def pause? (s : List Char) : Option (List Char) :=
  if (skipSpaces s).length < s.length then some (skipSpaces s)
  else if s.isEmpty || (after? "?>".toList s).isSome then some s
  else none

/-- Reads over an assignment of the declaration if the text begins with its name. -/
def declared? (name : String) (s : List Char) : Option (List Char) :=
  if (after? name.toList s).isSome then (assignment? s).map Read.rest else none

/-- Reads over what follows the `<?xml` of the declaration.  Names and values of its parts are not
checked further. -/
def declaration? (s : List Char) : Option (List Char) := do
  let s ← pause? s
  let s ← declared? "version" s
  let s ← pause? s
  let s ← if (after? "encoding".toList s).isSome then declared? "encoding" s >>= pause? else some s
  let s ← if (after? "standalone".toList s).isSome then declared? "standalone" s else some s
  after? "?>".toList (skipSpaces s)

/-- Reads a document: an optional byte order mark and declaration, then one element. -/
def Document.read? (text : String) : Option Document := do
  let s := match text.toList with
    | '\uFEFF' :: rest => rest
    | s => s
  let s ← if beginsDeclaration s then after? "<?xml".toList s >>= declaration? else some s
  let (prolog, s) ← miscellany? s
  let r ← piece? s
  match r.value with
  | .start name attributes closed =>
    let (tag, scope) ← Scope.enter? [] name attributes
    let (content, s) ←
      if closed then some ([], r.rest) else content? ⟨name, tag, scope, []⟩ [] r.rest
    let (epilog, s) ← miscellany? s
    if s.isEmpty then some ⟨prolog, tag, content, epilog⟩ else none
  | _ => none

end UiBinding.Xml
