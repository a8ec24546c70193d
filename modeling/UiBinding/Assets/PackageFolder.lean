/-
Package folders: what one folder of the assets directory turns out to be.

A folder without a readable manifest is skipped, one with a malformed manifest is refused.  Every
other folder is a package, and each component that its manifest lists was read or was not.

* `Disk.readPackage` reads a folder;
* `PackageFolder.log` is what the reading tells about it.
-/
import UiBinding.Component.Reading
import UiBinding.Disk.Access
import UiBinding.Log
import UiBinding.Package.Manifest
import UiBinding.Xml.Element

namespace UiBinding

/-- What became of a component that a manifest lists. -/
inductive ComponentFile where
  | read (reading : Component.Reading)
  | unreadable (problem : Diagnostic)

namespace ComponentFile

/-- The component, if it was read. -/
def component? : ComponentFile → Option Component
  | read reading => some reading.component
  | unreadable _ => none

/-- The addresses that the file asks to be exported. -/
def requests : ComponentFile → List String
  | read reading => reading.requests
  | unreadable _ => []

/-- The problems with the file. -/
def problems : ComponentFile → List Diagnostic
  | read reading => reading.problems
  | unreadable problem => [problem]

end ComponentFile

/-- What became of a folder. -/
inductive PackageFolder where
  /-- There is no manifest, or it cannot be read. -/
  | skipped (problem : Diagnostic)
  /-- The manifest is malformed. -/
  | refused (problem : Diagnostic)
  | accepted (package : Package) (files : List ComponentFile)

namespace Disk

/-- The element tree of a file, or the reason why there is none. -/
def readElement (d : Disk) (path : Path) : Except String Xml.Element :=
  match d.readText path with
  | .error fault => .error fault.message
  | .ok text =>
    match Xml.Element.read? text with
    | some root => .ok root
    | none => .error Xml.malformed

/-- Reads the file of a component. -/
def readComponent (d : Disk) (package : Package) (entry : Package.Entry) : ComponentFile :=
  match d.readElement entry.path with
  | .ok root => .read (Component.Reading.ofElement package entry root)
  | .error reason => .unreadable (.unreadableComponent entry.path.text reason)

/-- Reads a package folder.  The package is called like the folder. -/
def readPackage (d : Disk) (folder : Path) : PackageFolder :=
  let manifest := folder.join Package.manifestFile
  if !d.isFile manifest then .skipped (.missingManifest manifest.text)
  else
    match d.readElement manifest with
    | .error reason => .skipped (.unreadableManifest manifest.text reason)
    | .ok root =>
      match Package.ofManifestFile root folder (folder.fileName?.getD "") manifest.text with
      | .error problem => .refused problem
      | .ok package => .accepted package (package.entries.items.map (d.readComponent package))

end Disk

namespace PackageFolder

/-- The remarks on the addresses that a component file asks to be exported. -/
def requestLog (package : Package) (file : ComponentFile) : Log :=
  match file with
  | .unreadable _ => []
  | .read reading =>
    reading.requests.map fun url =>
      .remark (Component.label package.name reading.component.fileName ++
        " requests export of dropdown " ++ url)

/-- What the reading of a folder tells, before anything is registered. -/
def log : PackageFolder → Log
  | skipped _ => []
  | refused _ => []
  | accepted package files =>
    .remark ("package " ++ package.name ++ " (" ++ package.id ++ ")") ::
      files.flatMap (requestLog package)

/-- The problems that are kept as warnings. -/
def problems : PackageFolder → List Diagnostic
  | skipped problem => [problem]
  | refused _ => []
  | accepted _ files => files.flatMap ComponentFile.problems

end PackageFolder

end UiBinding
