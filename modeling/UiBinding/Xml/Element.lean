/-
Element trees: what is left of a document when only elements and attributes count, under their
local names.

* `Element.ofDocument` forgets text, comments, processing instructions and prefixes;
* `Element.read?` reads the element tree of a text.
-/
import UiBinding.Catalog
import UiBinding.Xml.Document

namespace UiBinding.Xml

/-- Attributes by local name.  Of two with one local name the value of the later stands in the
place of the earlier. -/
abbrev Attributes := Catalog (Prod.fst : String × String → String)

/-- An element with its attributes and child elements. -/
inductive Element where
  | mk (name : String) (attributes : Attributes) (children : List Element)

namespace Element

/-- The local name. -/
def name : Element → String
  | mk n _ _ => n

/-- The attributes, in the order in which their local names first stand in the tag. -/
def attributes : Element → Attributes
  | mk _ a _ => a

/-- The child elements in document order. -/
def children : Element → List Element
  | mk _ _ c => c

instance : Inhabited Element := ⟨mk "" .empty []⟩

/-- The value of an attribute. -/
def attribute? (e : Element) (name : String) : Option String :=
  (e.attributes.find? name).map Prod.snd

/-- The value of an attribute that is present and not empty. -/
def nonEmptyAttribute? (e : Element) (name : String) : Option String :=
  (e.attribute? name).filter fun value => value != ""

/-- The value of an attribute, empty if the attribute is absent. -/
def attributeOrEmpty (e : Element) (name : String) : String := (e.attribute? name).getD ""

/-! ### From documents -/

/-- The attributes of a tag under their local names. -/
def attributesOfTag (tag : Tag) : Attributes :=
  Catalog.ofList (tag.attributes.map fun a => (a.name.localName, a.value))

mutual

/-- The element tree of a node; text, comments and instructions have none. -/
def ofNode? : Node → Option Element
  | .element tag children => some (mk tag.name.localName (attributesOfTag tag) (ofNodes children))
  | .text _ => none
  | .comment _ => none
  | .instruction _ _ => none

/-- The element trees among the nodes, in order. -/
def ofNodes : List Node → List Element
  | [] => []
  | node :: rest =>
    match ofNode? node with
    | some e => e :: ofNodes rest
    | none => ofNodes rest

end

/-- The element tree of a document. -/
def ofDocument (d : Document) : Element :=
  mk d.root.name.localName (attributesOfTag d.root) (ofNodes d.content)

/-- The element tree of a text, if the text is a well-formed document. -/
def read? (text : String) : Option Element := (Document.read? text).map ofDocument

/-! ### Listing -/

mutual

/-- The elements of a tree with their depths, a parent before its children. -/
def preorder (depth : Nat) : Element → List (Nat × Element)
  | mk name attributes children =>
    (depth, mk name attributes children) :: preorderAll (depth + 1) children

/-- The elements of several trees with their depths. -/
def preorderAll (depth : Nat) : List Element → List (Nat × Element)
  | [] => []
  | e :: rest => preorder depth e ++ preorderAll depth rest

end

end Element

/-- The reason given for a text that is not a well-formed document.  What exactly is wrong with the
text is not told apart: this one text stands for every message of an XML reader. -/
def malformed : String := "<xml error>"

end UiBinding.Xml
