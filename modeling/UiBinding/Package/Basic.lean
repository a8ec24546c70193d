/-
Packages: a folder with a manifest and one file for each component.
-/
import UiBinding.Catalog
import UiBinding.Disk.Path

namespace UiBinding

/-- What a manifest says about one component. -/
structure Package.Entry where
  id : String
  /-- The name of the component file. -/
  fileName : String
  /-- Where the component file is. -/
  path : Path
  exported : Bool
  deriving DecidableEq, Repr

/-- A package.  Its entries are listed in manifest order, each file name once. -/
structure Package where
  id : String
  /-- The name of the package folder. -/
  name : String
  path : Path
  entries : Catalog Package.Entry.fileName

namespace Package

/-- A package without entries. -/
def bare (id name : String) (path : Path) : Package := ⟨id, name, path, .empty⟩

/-- The file name that makes a component the root panel of its package. -/
def rootPanelFile (p : Package) : String := p.name ++ "Panel.xml"

/-- The entry of the root panel. -/
def rootPanel? (p : Package) : Option Entry := p.entries.find? p.rootPanelFile

end Package

end UiBinding
