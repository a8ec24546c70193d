/-
Components: what one component file declares, and what resolution notes on it.

The first fields are authored and never change.  `exported`, `reachable`, `className?` and the
marks on members and controllers are notes: they start empty and are filled in by the passes over
the registry.
-/
import UiBinding.Component.Member
import UiBinding.Disk.Path

namespace UiBinding

/-- A component and the notes on it. -/
structure Component where
  packageId : String
  id : String
  /-- The name of the component file, such as `LoginPanel.xml`. -/
  fileName : String
  kind : Component.Kind
  /-- Whether the manifest declares the component exported. -/
  declaredExported : Bool
  controllers : List Controller
  members : List Member
  /-- Whether a class is generated for the component. -/
  exported : Bool := false
  /-- Whether a root panel leads to the component. -/
  reachable : Bool := false
  /-- The name of the generated class. -/
  className? : Option String := none

namespace Component

/-- What the component is looked up by. -/
def key (c : Component) : Key := ⟨c.packageId, c.id⟩

/-- The address under which other files refer to the component. -/
def url (c : Component) : String := c.key.url

/-- The file name without its extension. -/
def stem (c : Component) : String := Path.stem ⟨c.fileName⟩

/-- The nodes of the display list. -/
def displayList (c : Component) : List Xml.Element := c.members.map Member.node

/-- Where the component is declared, in the words of the user. -/
def label (packageName fileName : String) : String := packageName ++ "/" ++ fileName

/-- The members that become fields. -/
def exposedMembers (c : Component) : List Member := c.members.filter (·.exposed)

/-- The controllers that become fields. -/
def exposedControllers (c : Component) : List Controller := c.controllers.filter (·.exposed)

end Component

end UiBinding
