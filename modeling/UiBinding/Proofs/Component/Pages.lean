/-
Pages of a controller: identifiers and names in turn, in one text with commas between them.

The fields of a text are what has to be joined by the separator to give the text, and none of them
holds the separator.  Every second field is the name of a page, so the names of the pages come back
from the text that they were written into, and a last field without a partner is no page.

* `Text.fieldsOf_eq_splitOn` and `Text.fields_intercalate`: the fields of a text that was joined;
* `Controller.getElem?_alternate` and `Controller.length_alternate`: every second entry of a list;
* `Controller.pages_authored`: the pages of any text, and of one that pages were written into.
-/
import Mathlib.Tactic
import UiBinding.Component.Member

namespace UiBinding

/-! ### Fields -/

namespace Text

variable {separator : Char}

/-- The fields of a text are the pieces that it is split into. -/
lemma fieldsOf_eq_splitOn (cs : List Char) : fieldsOf separator cs = cs.splitOn separator := by
  induction cs with
  | nil => rfl
  | cons c rest ih =>
      rw [fieldsOf, ih, List.splitOn_cons_eq_if_modifyHead]
      by_cases hc : c = separator
      · simp [hc]
      · rw [if_neg hc, if_neg (by simpa using hc)]
        cases hfields : rest.splitOn separator with
        | nil => exact absurd hfields (List.splitOn_ne_nil separator rest)
        | cons field others => rfl

/-- No field holds the separator. -/
lemma not_mem_of_mem_fieldsOf {cs : List Char} :
    ∀ field ∈ fieldsOf separator cs, separator ∉ field := by
  induction cs with
  | nil => simp [fieldsOf]
  | cons c rest ih =>
      rw [fieldsOf]
      split
      · exact List.forall_mem_cons.mpr ⟨List.not_mem_nil, ih⟩
      · next hc =>
          have hne : separator ≠ c := Ne.symm hc
          split
          · simpa using hne
          · next field others hrest =>
              rw [hrest] at ih
              obtain ⟨hfield, hothers⟩ := List.forall_mem_cons.mp ih
              exact List.forall_mem_cons.mpr ⟨by simpa using ⟨hne, hfield⟩, hothers⟩

/-- A text is its fields, joined by the separator. -/
lemma intercalate_fields (s : String) :
    (String.singleton separator).intercalate (fields separator s) = s := by
  rw [← String.toList_inj, String.toList_intercalate, String.toList_singleton, fields,
    List.map_map]
  have hid : String.toList ∘ String.ofList = id := funext fun cs => String.toList_ofList
  rw [hid, List.map_id, fieldsOf_eq_splitOn, List.intercalate_splitOn]

/-- Texts that do not hold the separator are the fields of the text they are joined to. -/
lemma fields_intercalate {texts : List String} (hne : texts ≠ [])
    (hfree : ∀ t ∈ texts, separator ∉ t.toList) :
    fields separator ((String.singleton separator).intercalate texts) = texts := by
  have hchars : ∀ cs ∈ texts.map String.toList, separator ∉ cs := by simpa using hfree
  rw [fields, String.toList_intercalate, String.toList_singleton, fieldsOf_eq_splitOn,
    List.splitOn_intercalate separator hchars (by simpa using hne), List.map_map]
  have hid : String.ofList ∘ String.toList = id := funext fun t => String.ofList_toList
  rw [hid, List.map_id]

end Text

namespace Controller

/-! ### Every second entry -/

section

variable {α : Type}

/-- The entry at a place of every second one. -/
lemma getElem?_alternate (l : List α) (i : ℕ) : (alternate l)[i]? = l[2 * i + 1]? := by
  induction l using alternate.induct generalizing i with
  | case1 first second rest ih =>
      cases i with
      | zero => rfl
      | succ i => exact ih i
  | case2 l hshort =>
      match l with
      | [] => simp [alternate]
      | [only] => simp [alternate]
      | first :: second :: rest => exact absurd rfl (hshort first second rest)

/-- Every second entry: half of them, rounded down. -/
lemma length_alternate (l : List α) : (alternate l).length = l.length / 2 := by
  have hle : ∀ i, (alternate l).length ≤ i ↔ l.length ≤ 2 * i + 1 := fun i => by
    rw [← List.getElem?_eq_none_iff, ← List.getElem?_eq_none_iff, getElem?_alternate]
  have hupper := (hle (l.length / 2)).mpr (by omega)
  have hlower := (hle (alternate l).length).mp le_rfl
  omega

/-- Of pairs that are written one after the other, every second entry is the second of a pair. -/
lemma alternate_flatMap_pair (pairs : List (α × α)) :
    alternate (pairs.flatMap fun p => [p.1, p.2]) = pairs.map Prod.snd := by
  induction pairs with
  | nil => rfl
  | cons p rest ih =>
      rw [List.flatMap_cons, List.map_cons, ← ih]
      rfl

end

/-! ### Pages -/

/-- The `pages` attribute that identifiers and names are written into. -/
def written (entries : List (String × String)) : String :=
  ",".intercalate (entries.flatMap fun entry => [entry.1, entry.2])

/-- Every second field of what identifiers and names are written into is a name. -/
lemma alternate_fields_written {entries : List (String × String)}
    (hfree : ∀ entry ∈ entries, ',' ∉ entry.1.toList ∧ ',' ∉ entry.2.toList) :
    alternate (Text.fields ',' (written entries)) = entries.map Prod.snd := by
  cases entries with
  | nil =>
      -- nothing was written, and a text without commas is one field without a partner
      rfl
  | cons entry rest =>
      have hne : ((entry :: rest).flatMap fun entry => [entry.1, entry.2]) ≠ [] :=
        List.cons_ne_nil _ _
      have htexts : ∀ t ∈ (entry :: rest).flatMap fun entry => [entry.1, entry.2],
          ',' ∉ t.toList := by
        intro t ht
        obtain ⟨e, he, ht⟩ := List.mem_flatMap.mp ht
        obtain ⟨hid, hname⟩ := hfree e he
        rcases List.mem_pair.mp ht with rfl | rfl
        · exact hid
        · exact hname
      have hfields := Text.fields_intercalate hne htexts
      exact (congrArg alternate hfields).trans (alternate_flatMap_pair _)

/-- **The pages of a controller.**  The `pages` attribute, empty if it is missing, is a text of
fields with commas between them.  The names of the pages are its second, fourth, sixth field and so
on, half of the fields rounded down.  So if the attribute is what identifiers and names without
commas are written into, the pages are these names in order, however many there are and whichever
are empty. -/
theorem pages_authored (c : Controller) :
    let value := c.node.attributeOrEmpty "pages"
    let fields := Text.fields ',' value
    (fields ≠ [] ∧ (∀ field ∈ fields, ',' ∉ field.toList) ∧ ",".intercalate fields = value) ∧
    (∀ i : ℕ, c.pages[i]? = fields[2 * i + 1]?) ∧
    c.pages.length = fields.length / 2 ∧
    ∀ entries : List (String × String),
      (∀ entry ∈ entries, ',' ∉ entry.1.toList ∧ ',' ∉ entry.2.toList) →
      c.node.attribute? "pages" = some (written entries) → c.pages = entries.map Prod.snd := by
  intro value fields
  refine ⟨⟨?_, ?_, Text.intercalate_fields value⟩, getElem?_alternate fields,
    length_alternate fields, fun entries hfree hwritten => ?_⟩
  · refine fun hnil => List.splitOn_ne_nil ',' value.toList ?_
    rw [← Text.fieldsOf_eq_splitOn]
    exact List.map_eq_nil_iff.mp hnil
  · refine List.forall_mem_map.mpr fun cs hcs => ?_
    rw [String.toList_ofList]
    exact Text.not_mem_of_mem_fieldsOf cs hcs
  · have hvalue : value = written entries := by
      change c.node.attributeOrEmpty "pages" = _
      rw [Xml.Element.attributeOrEmpty, hwritten, Option.getD_some]
    change alternate (Text.fields ',' value) = _
    rw [hvalue, alternate_fields_written hfree]

/-- Three pages, the last of which has no name. -/
theorem pages_authored_unnamed :
    let entries := [("0", "idle"), ("1", "busy"), ("2", "")]
    let c : Controller := ⟨.mk "controller" (.ofList [("pages", "0,idle,1,busy,2,")]) [], false⟩
    (∀ entry ∈ entries, ',' ∉ entry.1.toList ∧ ',' ∉ entry.2.toList) ∧
    c.node.attribute? "pages" = some (written entries) ∧ c.pages = ["idle", "busy", ""] := by
  intro entries c
  have hfree : ∀ entry ∈ entries, ',' ∉ entry.1.toList ∧ ',' ∉ entry.2.toList := by decide
  have hwritten : c.node.attribute? "pages" = some (written entries) := by decide +kernel
  exact ⟨hfree, hwritten, (pages_authored c).2.2.2 entries hfree hwritten⟩

end Controller

end UiBinding
