/-
Reading off the front of a text.  A reader gives back what it read together with the rest, and the
rest is shorter than the text it was given; so a loop of readers ends because its text shrinks.

* `length_skipSpaces_le`, `length_dropWhile_le`: skipping never lengthens a text.
-/
import UiBinding.Xml.Character

namespace UiBinding.Xml

/-- Something read off the front of `s`, and the rest. -/
structure Read (s : List Char) (α : Type) where
  value : α
  rest : List Char
  shorter : rest.length < s.length

/-- Changes what was read. -/
def Read.map {s : List Char} {α β : Type} (f : α → β) (r : Read s α) : Read s β :=
  ⟨f r.value, r.rest, r.shorter⟩

/-- Skipping a run of characters never lengthens a text. -/
theorem length_dropWhile_le (p : Char → Bool) (s : List Char) :
    (s.dropWhile p).length ≤ s.length := by
  induction s with
  | nil => simp
  | cons c rest ih => by_cases h : p c <;> simp [h]; omega

/-- The text without the white space at its front. -/
def skipSpaces (s : List Char) : List Char := s.dropWhile isSpace

/-- Skipping white space never lengthens a text. -/
theorem length_skipSpaces_le (s : List Char) : (skipSpaces s).length ≤ s.length :=
  length_dropWhile_le isSpace s

/-- Reads one given character. -/
def char? (c : Char) : (s : List Char) → Option (Read s Unit)
  | [] => none
  | d :: rest => if d = c then some ⟨(), rest, by simp⟩ else none

/-- The rest after a given beginning, if the text has it. -/
def after? : List Char → List Char → Option (List Char)
  | [], s => some s
  | _ :: _, [] => none
  | c :: cs, d :: rest => if c = d then after? cs rest else none

/-- What follows a beginning is shorter by the length of the beginning. -/
theorem length_of_after? {start s rest : List Char} (h : after? start s = some rest) :
    rest.length + start.length = s.length := by
  induction start generalizing s with
  | nil => simp [after?] at h; simp [h]
  | cons c cs ih =>
    cases s with
    | nil => simp [after?] at h
    | cons d tail =>
      by_cases hcd : c = d
      · simp only [after?, hcd, if_true] at h
        simp [← ih h, Nat.add_assoc]
      · simp [after?, hcd] at h

/-- Reads a given beginning, which is not empty. -/
def literal? (start : List Char) (s : List Char) (nonempty : start ≠ [] := by simp) :
    Option (Read s Unit) :=
  match h : after? start s with
  | none => none
  | some rest => some ⟨(), rest, by
      have := length_of_after? h
      have := List.length_pos_iff.mpr nonempty
      omega⟩

/-- Reads up to and over a closing text; every character before it has to be allowed. -/
def until? (close : List Char) (nonempty : close ≠ [] := by simp) :
    (s : List Char) → Option (Read s (List Char))
  | [] => none
  | c :: rest =>
    match literal? close (c :: rest) nonempty with
    | some r => some (r.map fun _ => [])
    | none =>
      if isAllowed c then
        (until? close nonempty rest).map fun r =>
          ⟨c :: r.value, r.rest, by have := r.shorter; simp; omega⟩
      else none

/-- Whether a text occurs in another. -/
def occurs (part : List Char) : List Char → Bool
  | [] => part.isEmpty
  | c :: rest => (after? part (c :: rest)).isSome || occurs part rest

end UiBinding.Xml
