/-
Members and controllers: the parts of a component that can become fields of its generated class.

* `Member.target?` is the component that a member refers to;
* `Member.Typing` is the type that a member gets;
* `Controller.pages` reads the page names of a controller.
-/
import UiBinding.Component.Display
import UiBinding.Component.Key
import UiBinding.Component.Kind
import UiBinding.Text.Fields

namespace UiBinding

/-- The type that is generated for an exposed member. -/
inductive Member.Typing where
  /-- A display object with a framework type of its own. -/
  | display (baseType : String)
  /-- A reference to a registered component; the type is the class generated for it, or its base
  type. -/
  | component (target : Component.Key) (kind : Component.Kind) (typeName : String)
  /-- A reference to a component that is not registered. -/
  | dangling (target : Component.Key)
  deriving DecidableEq, Repr

namespace Member.Typing

/-- The name of the type; a dangling reference has none. -/
def typeName? : Typing → Option String
  | display baseType => some baseType
  | component _ _ typeName => some typeName
  | dangling _ => none

/-- The framework type that the member is instantiated as. -/
def baseType? : Typing → Option String
  | display baseType => some baseType
  | component _ kind _ => some kind.baseType
  | dangling _ => none

/-- The component referred to, whether it is registered or not. -/
def target? : Typing → Option Component.Key
  | display _ => none
  | component target _ _ => some target
  | dangling target => some target

/-- The target of a dangling reference. -/
def missing? : Typing → Option Component.Key
  | dangling target => some target
  | _ => none

/-- The sub-panel that a reference leads to: a registered plain container. -/
def subPanel? : Typing → Option Component.Key
  | component target .component _ => some target
  | _ => none

end Member.Typing

/-- A node of a display list, with what the passes over the registry find out about it. -/
structure Member where
  node : Xml.Element
  /-- Whether the member becomes a field. -/
  exposed : Bool := false
  /-- The type of the field. -/
  typing? : Option Member.Typing := none

namespace Member

/-- The authored name, empty if there is none. -/
def name (m : Member) : String := m.node.attributeOrEmpty "name"

/-- The kind of the display object. -/
def kind (m : Member) : DisplayKind := DisplayKind.ofElement m.node

/-- The component that a member of a package refers to: its `src` attribute in the package of its
`pkg` attribute, or in its own package where that is absent or empty.  Only references have one. -/
def target? (owner : String) (m : Member) : Option Component.Key :=
  if m.kind = .component then
    some ⟨(m.node.nonEmptyAttribute? "pkg").getD owner, m.node.attributeOrEmpty "src"⟩
  else none

/-- A member has a target exactly when it is a reference. -/
theorem target?_isSome (owner : String) (m : Member) :
    (m.target? owner).isSome = decide (m.kind = .component) := by
  unfold target?
  split <;> simp_all

end Member

/-- A controller of a component. -/
structure Controller where
  node : Xml.Element
  /-- Whether the controller becomes a field. -/
  exposed : Bool := false

namespace Controller

/-- The authored name, empty if there is none. -/
def name (c : Controller) : String := c.node.attributeOrEmpty "name"

/-- Every second entry of a list, beginning with the second. -/
def alternate {α : Type} : List α → List α
  | _ :: b :: rest => b :: alternate rest
  | _ => []

/-- The names of the pages.  The `pages` attribute holds an identifier and a name for each of them
in turn, all separated by commas. -/
def pages (c : Controller) : List String :=
  alternate (Text.fields ',' (c.node.attributeOrEmpty "pages"))

end Controller

end UiBinding
