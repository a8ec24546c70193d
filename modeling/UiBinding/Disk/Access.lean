/-
Access: what a program does with the files of a disk.

* `Disk.readText` reads a file as text;
* `Disk.folderNames` lists the folders in a folder, in the order of their names;
* `Disk.writeText` writes a file, and `content?_of_writeText_eq_ok` says that it touches no other
  place.
-/
import UiBinding.Disk.Locate

namespace UiBinding.Disk

/-- What a path leads to, with its place. -/
def find? (d : Disk) (path : Path) : Option (Place × Content) :=
  match d.locate path with
  | .ok (.present place) => (d.content? place).map fun content => (place, content)
  | _ => none

/-- Whether a path leads to a file. -/
def isFile (d : Disk) (path : Path) : Bool :=
  match d.find? path with
  | some (_, .file _) => true
  | _ => false

/-- The text of the file that a path leads to. -/
def readText (d : Disk) (path : Path) : Except Fault String :=
  match d.locate path with
  | .error fault => .error fault
  | .ok (.absent _) => .error .notFound
  | .ok (.present place) =>
    match d.content? place with
    | some (.file bytes) =>
      match String.fromUTF8? bytes with
      | some text => .ok text
      | none => .error .notText
    | some .folder => .error .isFolder
    | _ => .error .notFound

/-- The name of an entry directly in a folder. -/
def nameIn? (folder : Place) (e : Entry) : Option String :=
  if e.place.dropLast = folder then e.place.getLast? else none

/-- The names of the real folders in a folder, sorted.  Links to folders do not count. -/
def folderNames (d : Disk) (folder : Place) : List String :=
  ((d.entries.items.filter fun e => e.content.isFolder).filterMap (nameIn? folder)).mergeSort
    fun a b => decide (a ≤ b)

/-- The place that a file is written to. -/
def target (d : Disk) (path : Path) : Except Fault Place :=
  match d.locate path true with
  | .error fault => .error fault
  | .ok (.absent place) => .ok place
  | .ok (.present place) =>
    match d.content? place with
    | some (.file _) => .ok place
    | _ => .error .isFolder

/-- Writes bytes into a file, which is created if it is not there yet. -/
def writeBytes (d : Disk) (path : Path) (bytes : ByteArray) : Except Fault Disk :=
  (d.target path).map fun place => d.put place (.file bytes)

/-- Writes a text into a file, which is created if it is not there yet. -/
def writeText (d : Disk) (path : Path) (text : String) : Except Fault Disk :=
  d.writeBytes path text.toUTF8

/-- No file is written to the root. -/
theorem ne_nil_of_target_eq_ok {d : Disk} {path : Path} {place : Place}
    (h : d.target path = .ok place) : place ≠ [] := by
  unfold target at h
  split at h
  · cases h
  · next hlocate => cases h; exact ne_nil_of_locate_eq_absent hlocate
  · split at h
    · next hfile =>
      cases h
      rintro rfl
      cases hfile
    · cases h

/-- After a text was written, the place that its path leads to holds it and every other place holds
what it held before. -/
theorem content?_of_writeText_eq_ok {d written : Disk} {path : Path} {text : String}
    (h : d.writeText path text = .ok written) :
    ∃ place, d.target path = .ok place ∧ ∀ other, written.content? other =
      if place = other then some (.file text.toUTF8) else d.content? other := by
  unfold writeText writeBytes at h
  cases htarget : d.target path with
  | error fault => rw [htarget] at h; cases h
  | ok place =>
    rw [htarget] at h
    cases h
    exact ⟨place, rfl, content?_put d (ne_nil_of_target_eq_ok htarget) _⟩

/-- Makes a folder, if nothing stands in its place. -/
def makeFolder (d : Disk) (path : Path) : Disk :=
  match d.locate path with
  | .ok (.absent place) => d.put place .folder
  | _ => d

/-- Makes a link, if nothing stands in its place. -/
def makeLink (d : Disk) (path : Path) (target : String) : Disk :=
  match d.locate path with
  | .ok (.absent place) => d.put place (.link target)
  | _ => d

/-- Makes the folders that lead to a path. -/
def makeFoldersAbove (d : Disk) (path : Path) : Disk :=
  let parts := path.parts
  ((List.range parts.length).map fun n => "/".intercalate (parts.take n)).foldl
    (fun d above => d.makeFolder ⟨above⟩) d

end UiBinding.Disk
