/-
Reading a component from the root element of its file.

Each part of a component is read from the children with the right name; all other children are
passed over.

* `Reading.ofElement` is the component together with the components that it asks to be exported
  and the problems met in its file;
* `kind_of_unknown`: an unknown kind is a problem, and the component counts as a plain container.
-/
import UiBinding.Component.Basic
import UiBinding.Diagnostic
import UiBinding.Package.Basic

namespace UiBinding.Component

/-- The children of an element with a given name. -/
def childrenNamed (name : String) (root : Xml.Element) : List Xml.Element :=
  root.children.filter fun e => e.name = name

/-- The nodes of the display list.  Of several display lists the last one counts. -/
def displayNodes (root : Xml.Element) : List Xml.Element :=
  match (childrenNamed "displayList" root).getLast? with
  | some list => list.children
  | none => []

/-- The authored name of the kind.  The misspelt attribute is the usual one. -/
def kindName? (root : Xml.Element) : Option String :=
  (root.nonEmptyAttribute? "extention").or (root.nonEmptyAttribute? "extension")

/-- The kind of a component; one without a known kind is a plain container. -/
def kindOf (root : Xml.Element) : Kind := ((kindName? root).bind Kind.ofName?).getD .component

/-- The problem with the kind, if its name is not known. -/
def kindProblems (label : String) (root : Xml.Element) : List Diagnostic :=
  match kindName? root with
  | none => []
  | some name => if (Kind.ofName? name).isSome then [] else [.unknownComponentKind label name]

/-- The problem with a member, if its tag is not known. -/
def memberProblem? (label : String) (m : Member) : Option Diagnostic :=
  match m.kind with
  | .unknown tag => some (.unknownDisplayNode label tag m.name)
  | _ => none

/-- The address that the dropdown attribute of a combo box stands for.  A bare identifier means a
component of the same package. -/
def dropdownUrl (packageId value : String) : String :=
  if "ui://".toList.isPrefixOf value.toList then value else (Key.mk packageId value).url

/-- The addresses of the dropdown lists of a combo box. -/
def dropdownUrls (packageId : String) (root : Xml.Element) : List String :=
  if kindOf root = .comboBox then
    (childrenNamed "ComboBox" root).filterMap fun e =>
      (e.nonEmptyAttribute? "dropdown").map (dropdownUrl packageId)
  else []

/-- What the file of a component says. -/
structure Reading where
  component : Component
  /-- The addresses of the components that have to be exported for this one, in document order. -/
  requests : List String
  /-- The problems met, none of which hinders the component from being used. -/
  problems : List Diagnostic

/-- Reads a component of a package from the root element of its file. -/
def Reading.ofElement (package : Package) (entry : Package.Entry) (root : Xml.Element) :
    Reading :=
  let label := label package.name entry.fileName
  let members := (displayNodes root).map fun node => Member.mk node false none
  { component :=
      { packageId := package.id
        id := entry.id
        fileName := entry.fileName
        kind := kindOf root
        declaredExported := entry.exported
        controllers := (childrenNamed "controller" root).map fun node => ⟨node, false⟩
        members := members }
    requests := dropdownUrls package.id root
    problems := kindProblems label root ++ members.filterMap (memberProblem? label) }

/-- An unknown kind is a problem, and the component counts as a plain container. -/
theorem kind_of_unknown {label name : String} {root : Xml.Element} (h : kindName? root = some name)
    (hname : Kind.ofName? name = none) :
    kindOf root = .component ∧ kindProblems label root = [.unknownComponentKind label name] := by
  simp [kindOf, kindProblems, h, hname]

end UiBinding.Component
