/-
Discovery: which folders of an assets directory are packages.

Every real folder directly in the assets directory is one, unless its name starts with a point.
They are listed by name, so the order does not depend on how the disk lists its files.  On a
`Disk` the listing itself cannot fail, so there is no `Diagnostic.ioFailed` among its problems.
-/
import UiBinding.Diagnostic
import UiBinding.Disk.Access

namespace UiBinding.Disk

/-- Whether a name is hidden. -/
def isHidden (name : String) : Bool := name.toList.head? = some '.'

/-- The package folders of an assets directory. -/
def packageFolders (d : Disk) (assets : Path) : Except Diagnostic (List Path) :=
  match d.find? assets with
  | some (place, .folder) =>
    .ok (((d.folderNames place).filter fun name => !isHidden name).map assets.join)
  | _ => .error (.assetsNotFound assets.text)

end UiBinding.Disk
