/-
Manifests: what the root element of a manifest says about its package.

* `Package.entryPath` places the file of a component below the package folder;
* `Package.ofManifest` accepts a manifest whose first two sections are `resources` and `publish`
  and whose root has an identifier; `Package.ofManifestFile` reports the defects of one that is not
  accepted.
-/
import UiBinding.Diagnostic
import UiBinding.Package.Basic
import UiBinding.Xml.Element

namespace UiBinding.Package

/-- The name of the manifest in a package folder. -/
def manifestFile : String := "package.xml"

/-- The path of an entry: below the package folder, in the folder that its `path` attribute
names. -/
def entryPath (folder : Path) (relative fileName : String) : Path :=
  let relative := Path.trimSlashes relative
  if relative = "" then folder.join fileName else (folder.join relative).join fileName

/-- The entry that an element of the resource section declares. -/
def Entry.ofElement (folder : Path) (e : Xml.Element) : Entry where
  id := e.attributeOrEmpty "id"
  fileName := e.attributeOrEmpty "name"
  path := entryPath folder ((e.attribute? "path").getD "/") (e.attributeOrEmpty "name")
  exported := e.attribute? "exported" = some "true"

/-- What can be wrong with a manifest that is well-formed. -/
inductive ManifestDefect where
  /-- The sections are not the expected ones. -/
  | sections (found : List String)
  | noIdentifier
  deriving DecidableEq, Repr

/-- The words for a defect. -/
def ManifestDefect.reason : ManifestDefect → String
  | sections found =>
    "expected <resources> followed by <publish>, found [" ++ ", ".intercalate found ++ "]"
  | noIdentifier => "root element has no id"

/-- The resource section of a manifest, if the sections are as expected. -/
def resourceSection? (root : Xml.Element) : Option Xml.Element :=
  match root.children with
  | resources :: publish :: _ =>
    if resources.name = "resources" ∧ publish.name = "publish" then some resources else none
  | _ => none

/-- The package that a manifest in a folder declares.  Of two components with one file name the
later one stands in the place of the earlier. -/
def ofManifest (root : Xml.Element) (folder : Path) (name : String) :
    Except ManifestDefect Package :=
  match resourceSection? root with
  | none => .error (.sections (root.children.map Xml.Element.name))
  | some resources =>
    match root.nonEmptyAttribute? "id" with
    | none => .error .noIdentifier
    | some id =>
      let declared := resources.children.filter fun e => e.name = "component"
      .ok ⟨id, name, folder, Catalog.ofList (declared.map (Entry.ofElement folder))⟩

/-- The package that a manifest declares; what is wrong with the manifest is reported under the name
of its file. -/
def ofManifestFile (root : Xml.Element) (folder : Path) (name file : String) :
    Except Diagnostic Package :=
  (ofManifest root folder name).mapError fun defect => .malformedManifest file defect.reason

end UiBinding.Package
