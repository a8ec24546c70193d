/-
The order of texts by their bytes.

A character is written with one to four bytes.  The more bytes it takes, the greater is the first
one, and characters with equally many bytes differ in the first byte in which their numbers do.  So
comparing the bytes of two texts is the same as comparing their characters.

* `Text.bytes` are the bytes of a text;
* `append_lt_append`: of two characters, the bytes of the lesser one come first, whatever follows;
* `bytes_lt_bytes_iff`: texts are ordered by their bytes as they are by their characters.
-/
import Mathlib.Data.String.Basic
import Mathlib.Tactic

namespace UiBinding.Text

/-- The bytes of a text. -/
def bytes (s : String) : List UInt8 := s.toUTF8.data.toList

/-- The bytes of a text are those of its characters. -/
lemma bytes_eq_flatMap (s : String) : bytes s = s.toList.flatMap String.utf8EncodeChar := by
  rw [bytes, String.toUTF8_eq_toByteArray, ← String.utf8Encode_toList, List.utf8Encode,
    List.toList_data_toByteArray]

/-- The lesser of two numbers has the lesser leading digits, or the same ones and the lesser last
digit. -/
lemma div_lt_or_mod_lt {m n : ℕ} (h : m < n) (base : ℕ) :
    m / base < n / base ∨ m / base = n / base ∧ m % base < n % base := by
  have hle : m / base ≤ n / base := Nat.div_le_div_right h.le
  rcases hle.lt_or_eq with hlt | heq
  · exact Or.inl hlt
  · refine Or.inr ⟨heq, ?_⟩
    rw [← Nat.div_add_mod m base, ← Nat.div_add_mod n base, heq] at h
    exact Nat.lt_of_add_lt_add_left h

/-- The numbers of characters are bounded. -/
lemma toNat_val_lt (c : Char) : c.val.toNat < 1114112 := by
  have hvalid := c.valid
  simp only [UInt32.isValidChar, Nat.isValidChar] at hvalid
  omega

/-- **Of two characters**, the bytes of the lesser one come first, whatever follows. -/
lemma append_lt_append {c e : Char} (h : c < e) (later others : List UInt8) :
    String.utf8EncodeChar c ++ later < String.utf8EncodeChar e ++ others := by
  have hlt : c.val.toNat < e.val.toNat := h
  have hbound := toNat_val_lt e
  simp only [String.utf8EncodeChar]
  generalize c.val.toNat = m at hlt
  generalize e.val.toNat = n at hlt hbound
  -- every byte but the first holds one digit to the base 64
  have hfourth := div_lt_or_mod_lt hlt 64
  have hthird (h : m / 64 < n / 64) :
      m / 4096 < n / 4096 ∨ m / 4096 = n / 4096 ∧ m / 64 % 64 < n / 64 % 64 := by
    simpa only [Nat.div_div_eq_div_mul] using div_lt_or_mod_lt h 64
  have hsecond (h : m / 4096 < n / 4096) :
      m / 262144 < n / 262144 ∨ m / 262144 = n / 262144 ∧ m / 4096 % 64 < n / 4096 % 64 := by
    simpa only [Nat.div_div_eq_div_mul] using div_lt_or_mod_lt h 64
  split_ifs
  all_goals
    simp (disch := omega) only [List.cons_append, List.nil_append, List.cons_lt_cons_iff,
      UInt8.lt_iff_toNat_lt, ← UInt8.toNat_inj, UInt8.toNat_ofNat', Nat.mod_eq_of_lt]
    omega

/-- Of two words of characters, the bytes of the lesser one come first. -/
lemma flatMap_lt_flatMap {cs es : List Char} (h : cs < es) :
    cs.flatMap String.utf8EncodeChar < es.flatMap String.utf8EncodeChar := by
  induction h with
  | nil =>
      rw [List.flatMap_nil, List.flatMap_cons]
      obtain ⟨byte, more, hbytes⟩ := List.exists_cons_of_ne_nil String.utf8EncodeChar_ne_nil
      rw [hbytes]
      exact .nil
  | rel h => exact append_lt_append h _ _
  | cons _ ih => exact .append_left _ ih _

/-- **Texts are ordered by their bytes** as they are by their characters. -/
theorem bytes_lt_bytes_iff {s t : String} : bytes s < bytes t ↔ s < t := by
  have hbytes : ∀ {s t : String}, s < t → bytes s < bytes t := by
    intro s t h
    rw [bytes_eq_flatMap, bytes_eq_flatMap]
    exact flatMap_lt_flatMap (String.lt_iff_toList_lt.mp h)
  refine ⟨fun h => ?_, hbytes⟩
  rcases lt_trichotomy s t with hlt | rfl | hgt
  · exact hlt
  · exact absurd h (List.lt_irrefl _)
  · exact absurd h (List.lt_asymm (hbytes hgt))

end UiBinding.Text
