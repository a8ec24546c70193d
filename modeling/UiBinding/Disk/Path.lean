/-
Paths: texts that name a place in a file tree, with slashes between their parts.

* `Path.join` places one path below another; an absolute path stays where it is;
* `Path.fileName?` and `Path.stem` read the last part of a path;
* `isAbsolute_trimSlashes`: a text without slashes at its ends is not absolute.
-/
import UiBinding.Text.Fields

namespace UiBinding

/-- A path, as it is written. -/
@[ext]
structure Path where
  text : String
  deriving DecidableEq, Repr, Inhabited

namespace Path

/-- The texts between the slashes of a path, empty ones included. -/
def parts (p : Path) : List String := Text.fields '/' p.text

/-- Whether a path starts at the root of the file tree. -/
def isAbsolute (p : Path) : Bool := p.text.toList.head? = some '/'

/-- The path of `child` seen from `p`.  An absolute child is a path of its own; else the two texts
are joined by one slash, which `p` may end with already. -/
def join (p : Path) (child : String) : Path :=
  if isAbsolute ⟨child⟩ then ⟨child⟩
  else if p.text = "" || p.text.toList.getLast? = some '/' then ⟨p.text ++ child⟩
  else ⟨p.text ++ "/" ++ child⟩

/-- The last part of a path, unless it is the step to the folder above.  Slashes at the end and
steps that stay where they are do not count. -/
def fileName? (p : Path) : Option String :=
  ((p.parts.filter fun part => part != "" && part != ".").getLast?).filter fun part => part != ".."

/-- A file name without its extension: what stands before the last point, unless that is
nothing. -/
def withoutExtension (name : String) : String :=
  let back := name.toList.reverse
  match back.dropWhile (· != '.') with
  | _ :: before => if before.isEmpty then name else String.ofList before.reverse
  | [] => name

/-- The file name of a path without its extension; a path without a file name stands for
itself. -/
def stem (p : Path) : String :=
  match p.fileName? with
  | some name => withoutExtension name
  | none => p.text

/-- A text without the slashes at its two ends. -/
def trimSlashes (s : String) : String :=
  String.ofList (((s.toList.dropWhile (· = '/')).reverse.dropWhile (· = '/')).reverse)

/-! ### Laws -/

/-- Nothing is left but what does not start with a slash. -/
theorem isAbsolute_trimSlashes (s : String) : isAbsolute ⟨trimSlashes s⟩ = false := by
  simp only [isAbsolute, trimSlashes, String.toList_ofList, decide_eq_false_iff_not]
  intro h
  -- a slash in front would have been dropped
  generalize hd : s.toList.dropWhile (· = '/') = d at h
  have hfront : d.head? ≠ some '/' := by
    intro hcontra
    have hnot := List.head?_dropWhile_not (fun c => decide (c = '/')) s.toList
    rw [hd, hcontra] at hnot
    simp at hnot
  have hprefix : (d.reverse.dropWhile (· = '/')).reverse <+: d := by
    have := List.dropWhile_suffix (l := d.reverse) (fun c => decide (c = '/'))
    simpa using List.reverse_prefix.mpr this
  obtain ⟨rest, hrest⟩ := hprefix
  cases hcase : (d.reverse.dropWhile (· = '/')).reverse with
  | nil => rw [hcase] at h; simp at h
  | cons c cs =>
    rw [hcase] at h hrest
    simp only [List.head?_cons, Option.some.injEq] at h
    subst h
    exact hfront (by rw [← hrest]; rfl)

end Path

end UiBinding
