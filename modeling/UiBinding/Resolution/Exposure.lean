/-
Exposure: which members and controllers become fields.

A part without a name never does.  The editor names parts that the author has not named by a
letter and a number; those are left out when the configuration says so.

* `isDefaultName_iff`: a default name is the letter followed by one or more digits;
* `isExposedMember_mono`: including default names takes no member away.
-/
import UiBinding.Component.Basic
import UiBinding.Config

namespace UiBinding

/-- Whether a name is a given letter followed by one or more digits. -/
def isDefaultName (letter : Char) (name : String) : Bool :=
  match name.toList with
  | first :: digit :: digits => first = letter && (digit :: digits).all Char.isDigit
  | _ => false

/-- Whether a display object with this name and kind becomes a field. -/
def isExposedMember (ignoreDefaultNames : Bool) (name : String) (kind : DisplayKind) : Bool :=
  name != "" && kind.isBindable && !(ignoreDefaultNames && isDefaultName 'n' name)

/-- Whether a controller with this name becomes a field. -/
def isExposedController (ignoreDefaultNames : Bool) (name : String) : Bool :=
  name != "" && !(ignoreDefaultNames && isDefaultName 'c' name)

namespace Component

/-- Marks the members and controllers that become fields. -/
def expose (ignoreDefaultNames : Bool) (c : Component) : Component :=
  { c with
    members := c.members.map fun m =>
      { m with exposed := isExposedMember ignoreDefaultNames m.name m.kind }
    controllers := c.controllers.map fun k =>
      { k with exposed := isExposedController ignoreDefaultNames k.name } }

end Component

/-! ### Laws -/

/-- A default name is the letter followed by one or more digits. -/
theorem isDefaultName_iff {letter : Char} {name : String} :
    isDefaultName letter name = true ↔
      ∃ digits : List Char, digits ≠ [] ∧ (∀ d ∈ digits, d.isDigit = true) ∧
        name.toList = letter :: digits := by
  unfold isDefaultName
  split
  · next first digit digits h =>
    simp only [Bool.and_eq_true, decide_eq_true_eq, List.all_eq_true]
    constructor
    · rintro ⟨rfl, hall⟩
      exact ⟨digit :: digits, by simp, hall, h⟩
    · rintro ⟨ds, -, hall, heq⟩
      rw [h] at heq
      obtain ⟨hfirst, hrest⟩ := List.cons.inj heq
      exact ⟨hfirst, hrest ▸ hall⟩
  · next hshort =>
    simp only [Bool.false_eq_true, false_iff]
    rintro ⟨ds, hne, -, heq⟩
    cases ds with
    | nil => exact hne rfl
    | cons d rest => exact hshort letter d rest heq

/-- Including default names takes no member away. -/
theorem isExposedMember_mono {name : String} {kind : DisplayKind}
    (h : isExposedMember true name kind = true) : isExposedMember false name kind = true := by
  simp only [isExposedMember, Bool.and_eq_true] at h ⊢
  exact ⟨h.1, rfl⟩

end UiBinding
