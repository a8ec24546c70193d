/-
Display objects: what kinds of them a display list can hold, and which of them can be bound.

* `DisplayKind.ofElement` classifies a node of a display list by its tag;
* `DisplayKind.baseType?_eq_none_iff`: only references and unknown tags have no framework type of
  their own.
-/
import UiBinding.Xml.Element

namespace UiBinding

/-- The kind of a display object. -/
inductive DisplayKind where
  | graph
  | group
  | image
  | loader
  | loader3D
  | movieClip
  | textField
  | textInput
  | richText
  | list
  /-- A reference to another component. -/
  | component
  /-- A tag that is not known; such an object is never bound. -/
  | unknown (tag : String)
  deriving DecidableEq, Repr

namespace DisplayKind

/-- The kind of a node.  Text fields and text inputs both have the tag `text`; an input is marked
by `input="true"`. -/
def ofElement (node : Xml.Element) : DisplayKind :=
  match node.name with
  | "graph" => graph
  | "group" => group
  | "image" => image
  | "loader" => loader
  | "loader3D" => loader3D
  | "movieclip" => movieClip
  | "text" => if node.attribute? "input" = some "true" then textInput else textField
  | "textfield" => textField
  | "textinput" => textInput
  | "richtext" => richText
  | "list" => list
  | "component" => component
  | tag => unknown tag

/-- The name of a kind; an unknown tag stands for itself. -/
def name : DisplayKind → String
  | graph => "graph"
  | group => "group"
  | image => "image"
  | loader => "loader"
  | loader3D => "loader3D"
  | movieClip => "movieclip"
  | textField => "textfield"
  | textInput => "textinput"
  | richText => "richtext"
  | list => "list"
  | component => "component"
  | unknown tag => tag

/-- Whether the tag is known. -/
def isKnown : DisplayKind → Bool
  | unknown _ => false
  | _ => true

/-- Whether an object of this kind can be bound at all. -/
def isBindable (kind : DisplayKind) : Bool := kind.isKnown

/-- The framework type of an object.  That of a reference depends on its target. -/
def baseType? : DisplayKind → Option String
  | graph => some "GGraph"
  | group => some "GGroup"
  | image => some "GImage"
  | loader => some "GLoader"
  | loader3D => some "GLoader3D"
  | movieClip => some "GMovieClip"
  | textField => some "GTextField"
  | textInput => some "GTextInput"
  | richText => some "GRichTextField"
  | list => some "GList"
  | component => none
  | unknown _ => none

/-- Only references and unknown tags have no framework type of their own. -/
theorem baseType?_eq_none_iff {kind : DisplayKind} :
    kind.baseType? = none ↔ kind = component ∨ kind.isBindable = false := by
  cases kind <;> simp [baseType?, isBindable, isKnown]

end DisplayKind

end UiBinding
