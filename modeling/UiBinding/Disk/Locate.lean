/-
Locating: which place a path leads to.

A path is followed part by part.  Empty parts and single points stay where they are, two points go
to the folder above, and a link is replaced by its target, at most forty times in all.

* `Fault` is why a file cannot be used;
* `Disk.locate` follows a path to its end;
* `Located` tells an entry that is there from one that is only missing its last part;
* `ne_nil_of_locate_eq_absent`: what is missing is not the root.
-/
import UiBinding.Disk.Basic
import UiBinding.Disk.Path

namespace UiBinding.Disk

/-- Why a file cannot be used.  There is no fault for a missing permission, as disks have none. -/
inductive Fault where
  | notFound
  /-- A part in the middle of the path is not a folder. -/
  | notFolder
  | isFolder
  | nameTooLong
  | tooManyLinks
  /-- The path holds the character that ends texts in the operating system. -/
  | zeroInPath
  /-- The bytes of the file are no text. -/
  | notText
  deriving DecidableEq, Repr

/-- The words for a fault. -/
def Fault.message : Fault → String
  | notFound => "No such file or directory (os error 2)"
  | notFolder => "Not a directory (os error 20)"
  | isFolder => "Is a directory (os error 21)"
  | nameTooLong => "File name too long (os error 36)"
  | tooManyLinks => "Too many levels of symbolic links (os error 40)"
  | zeroInPath => "file name contained an unexpected NUL byte"
  | notText => "stream did not contain valid UTF-8"

/-- Where a path leads. -/
inductive Located where
  | present (place : Place)
  /-- Nothing is there yet, but the folder that it would be in is. -/
  | absent (place : Place)
  deriving DecidableEq, Repr

/-- The number of links that are followed on the way to a place. -/
def linkLimit : Nat := 40

/-- The greatest length of a name and of a path in bytes. -/
def nameLimit : Nat := 255
@[inherit_doc nameLimit]
def pathLimit : Nat := 4095

/-- Follows the parts of a path from a place, with a number of links that may be followed.  A path
to something that is to be created may not end with a slash. -/
def follow (d : Disk) (creating : Bool) (links : Nat) (here : Place) (parts : List String) :
    Except Fault Located :=
  match parts with
  | [] => .ok (.present here)
  | part :: rest =>
    if !d.holdsFolder here then .error .notFolder
    else if part = "" ∨ part = "." then follow d creating links here rest
    else if part = ".." then follow d creating links here.dropLast rest
    else if creating ∧ rest ≠ [] ∧ rest.all (· = "") then .error .isFolder
    else if nameLimit < part.utf8ByteSize then .error .nameTooLong
    else
      match d.content? (here ++ [part]) with
      | none => if rest = [] then .ok (.absent (here ++ [part])) else .error .notFound
      | some (.link target) =>
        match links with
        | 0 => .error .tooManyLinks
        | links + 1 =>
          let start := if Path.isAbsolute ⟨target⟩ then [] else here
          follow d creating links start (Path.parts ⟨target⟩ ++ rest)
      | some _ => follow d creating links (here ++ [part]) rest
termination_by (links, parts.length)

/-- Follows a path from the working folder to its end. -/
def locate (d : Disk) (path : Path) (creating : Bool := false) : Except Fault Located :=
  if path.text.toList.contains '\x00' then .error .zeroInPath
  else if path.text = "" then .error .notFound
  else if pathLimit < path.text.utf8ByteSize then .error .nameTooLong
  else follow d creating linkLimit (if path.isAbsolute then [] else d.workingFolder) path.parts

/-- What is missing at the end of a way is not the root. -/
theorem ne_nil_of_follow_eq_absent {d : Disk} {creating : Bool} {links : Nat} {here place : Place}
    {parts : List String} (h : follow d creating links here parts = .ok (.absent place)) :
    place ≠ [] := by
  fun_induction follow d creating links here parts <;> simp_all
  exact fun hnil => by simp [← h] at hnil

/-- What is missing at the end of a path is not the root. -/
theorem ne_nil_of_locate_eq_absent {d : Disk} {path : Path} {creating : Bool} {place : Place}
    (h : d.locate path creating = .ok (.absent place)) : place ≠ [] := by
  unfold locate at h
  split at h
  · cases h
  · split at h
    · cases h
    · split at h
      · cases h
      · exact ne_nil_of_follow_eq_absent h

end UiBinding.Disk
