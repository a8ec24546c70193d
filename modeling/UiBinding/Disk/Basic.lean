/-
Disks: a file tree as a table of places.

A place is the list of names that lead to it from the root, none of which is a link.  Every place
is listed once with what it holds; the root always holds a folder.

Three things that a real file tree may have are left out.  Names are texts, so a file whose name is
not UTF-8 cannot be on a disk.  There are no permissions, so whatever is on a disk can be read and
every folder can be written to.  And looking something up or listing a folder never fails halfway,
as it may on a failing device or when another program changes the tree meanwhile.

* `Disk.content?` is what a place holds, `Disk.put` changes it;
* `content?_put`: after an entry was put at a place, that place holds it and every other place holds
  what it held before.
-/
import UiBinding.Catalog

namespace UiBinding

/-- What a place holds. -/
inductive Disk.Content where
  | file (bytes : ByteArray)
  | folder
  /-- A reference to another path. -/
  | link (target : String)

/-- Whether a folder is held. -/
def Disk.Content.isFolder : Disk.Content → Bool
  | folder => true
  | _ => false

/-- The names that lead to a place from the root. -/
abbrev Disk.Place := List String

/-- A place and what it holds. -/
structure Disk.Entry where
  place : Disk.Place
  content : Disk.Content

/-- A file tree, seen from a folder in it. -/
structure Disk where
  entries : Catalog Disk.Entry.place
  /-- Where relative paths start. -/
  workingFolder : Disk.Place

namespace Disk

/-- What a place holds, if there is anything. -/
def content? (d : Disk) : Place → Option Content
  | [] => some .folder
  | place => (d.entries.find? place).map Entry.content

/-- Whether a place holds a folder. -/
def holdsFolder (d : Disk) (place : Place) : Bool := (d.content? place).any Content.isFolder

/-- Puts something at a place. -/
def put (d : Disk) (place : Place) (content : Content) : Disk :=
  { d with entries := d.entries.insert ⟨place, content⟩ }

/-- A file tree that holds nothing but the folders that lead to the working folder. -/
def bare (workingFolder : Place) : Disk :=
  ((List.range workingFolder.length).map fun n => workingFolder.take (n + 1)).foldl
    (fun d place => d.put place .folder) ⟨.empty, workingFolder⟩

/-- A place holds a folder exactly when a folder is found there. -/
theorem holdsFolder_iff {d : Disk} {place : Place} :
    d.holdsFolder place = true ↔ d.content? place = some .folder := by
  unfold holdsFolder
  cases h : d.content? place with
  | none => simp
  | some content => cases content <;> simp [Content.isFolder]

/-- After an entry was put at a place, that place holds it and every other place holds what it held
before. -/
theorem content?_put (d : Disk) {place : Place} (h : place ≠ []) (content : Content)
    (other : Place) :
    (d.put place content).content? other =
      if place = other then some content else d.content? other := by
  cases other with
  | nil => simp [content?, h]
  | cons name names =>
    simp only [content?, put, Catalog.find?_insert]
    split <;> rfl

end Disk

end UiBinding
