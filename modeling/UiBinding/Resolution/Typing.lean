/-
The type pass: every exposed member gets the type of its field.

Display objects have a framework type of their own.  A reference has the type of its target: the
class generated for it, or else its base type.  A reference whose target is not registered dangles;
it is reported and the pass goes on.

* `Registry.resolveTypes` types every member anew, by the registry as it was before;
* `Registry.danglingReferences` lists what is left unresolved.
-/
import UiBinding.Registry

namespace UiBinding

/-- An exposed reference whose target is not registered. -/
structure DanglingReference where
  component : Component.Key
  /-- Where the component is declared, in the words of the user. -/
  location : String
  member : String
  target : Component.Key
  deriving DecidableEq, Repr

/-- The diagnostic that reports a dangling reference. -/
def DanglingReference.diagnostic (d : DanglingReference) : Diagnostic :=
  .danglingReference d.location d.member d.target.text

namespace Registry

/-- The component that a reference leads to.  Its package has to be registered as well. -/
def target? (r : Registry) (key : Component.Key) : Option Component :=
  (r.package? key.packageId).bind fun _ => r.component? key

/-- The type of a reference to a component. -/
def referenceTyping (r : Registry) (key : Component.Key) : Member.Typing :=
  match r.target? key with
  | some c => .component key c.kind (c.className?.getD c.kind.baseType)
  | none => .dangling key

/-- The type of a member of a package.  Only objects with an unknown tag have none. -/
def typing? (r : Registry) (owner : String) (m : Member) : Option Member.Typing :=
  match m.kind.baseType? with
  | some baseType => some (.display baseType)
  | none => (m.target? owner).map r.referenceTyping

/-- A member of a package with its type; a member that does not become a field has none. -/
def resolveMember (r : Registry) (owner : String) (m : Member) : Member :=
  { m with typing? := if m.exposed then r.typing? owner m else none }

/-- A component with the types of its members. -/
def resolveComponent (r : Registry) (c : Component) : Component :=
  { c with members := c.members.map (r.resolveMember c.packageId) }

/-- Types every member of a registry. -/
def resolveTypes (r : Registry) : Registry :=
  r.mapComponents r.resolveComponent fun _ => rfl

/-- The dangling references among the members of a component. -/
def danglingReferencesOf (r : Registry) (c : Component) : List DanglingReference :=
  c.members.filterMap fun m =>
    (m.typing?.bind Member.Typing.missing?).map fun target =>
      ⟨c.key, Component.label (r.packageName c.packageId) c.fileName, m.name, target⟩

/-- The dangling references of a registry, in the order of its components and their members. -/
def danglingReferences (r : Registry) : List DanglingReference :=
  r.components.items.flatMap r.danglingReferencesOf

end Registry

end UiBinding
