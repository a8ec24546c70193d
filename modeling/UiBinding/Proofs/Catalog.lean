/-
Catalogues whose items are changed in place, and catalogues filled from a list.

* `find?_mapItems`: a changed item is found under the key of the old one;
* `mapItems_congr` and `mapItems_eq_self`: only what is done to the items that are there counts;
* `exists_split_of_mem`: around an item no other item has its key;
* `perm_iff`: two catalogues hold the same items exactly when they find the same under every key;
* `ext_find?`: with the same keys in the same order they are equal;
* `mem_insert_iff`: what a catalogue holds after an item was entered;
* `items_insert_of_split`: an item with a known key takes the place of the one that has it;
* `find?_foldl_insert` and `contains_foldl_insert_iff`: after entering a list of items, the last one
  with a key is found under it;
* `mem_ofList_iff` and `exists_split_of_mem_ofList`: a catalogue filled from a list holds the last
  item with each key;
* `keys_ofList`: its keys stand in the order in which they were first entered.
-/
import Mathlib.Tactic
import UiBinding.Catalog

namespace UiBinding.Catalog

variable {α κ : Type} {key : α → κ}

/-- Two changes one after the other are one change. -/
lemma mapItems_mapItems {f g : α → α} (hf : ∀ a, key (f a) = key a) (hg : ∀ a, key (g a) = key a)
    (c : Catalog key) :
    (c.mapItems f hf).mapItems g hg =
      c.mapItems (fun a => g (f a)) (fun a => (hg (f a)).trans (hf a)) :=
  ext (by simp)

/-- Changes that do the same to every item give the same catalogue. -/
lemma mapItems_congr {f g : α → α} (hf : ∀ a, key (f a) = key a) (hg : ∀ a, key (g a) = key a)
    {c : Catalog key} (h : ∀ a ∈ c.items, f a = g a) : c.mapItems f hf = c.mapItems g hg :=
  ext (List.map_congr_left h)

/-- A change that leaves every item as it is leaves the catalogue as it is. -/
lemma mapItems_eq_self {f : α → α} (hf : ∀ a, key (f a) = key a) {c : Catalog key}
    (h : ∀ a ∈ c.items, f a = a) : c.mapItems f hf = c :=
  ext ((List.map_congr_left h).trans (List.map_id _))

/-- If a change leaves the catalogue as it is, it leaves every item as it is. -/
lemma eq_of_mapItems_eq_self {f : α → α} (hf : ∀ a, key (f a) = key a) {c : Catalog key}
    (h : c.mapItems f hf = c) : ∀ a ∈ c.items, f a = a := by
  have hitems : c.items.map f = c.items.map id := by
    rw [List.map_id]
    exact congrArg items h
  exact List.map_inj_left.mp hitems

/-- Around an item of a list without repeated keys, no other item has its key. -/
lemma exists_split_of_mem {items : List α} (hdistinct : (items.map key).Nodup) {a : α}
    (ha : a ∈ items) : ∃ before after, items = before ++ a :: after ∧
      key a ∉ before.map key ∧ key a ∉ after.map key := by
  obtain ⟨before, after, rfl⟩ := List.append_of_mem ha
  rw [List.map_append, List.map_cons, List.nodup_middle, List.nodup_cons, List.mem_append,
    not_or] at hdistinct
  exact ⟨before, after, rfl, hdistinct.1⟩

variable [DecidableEq κ]

/-- A changed item is found under the key of the old one. -/
@[simp]
lemma find?_mapItems {f : α → α} (hf : ∀ a, key (f a) = key a) (c : Catalog key) (k : κ) :
    (c.mapItems f hf).find? k = (c.find? k).map f := by
  simp only [find?, items_mapItems, List.find?_map]
  congr 2
  funext a
  simp [hf]

/-- An item is held exactly when it is found under its own key. -/
lemma mem_items_iff {c : Catalog key} {a : α} : a ∈ c.items ↔ c.find? (key a) = some a := by
  rw [find?_eq_some_iff]
  exact (and_iff_left rfl).symm

/-- Two catalogues hold the same items exactly when they find the same under every key. -/
lemma perm_iff {c d : Catalog key} : c.items.Perm d.items ↔ ∀ k, c.find? k = d.find? k := by
  rw [List.perm_ext_iff_of_nodup c.distinct.of_map d.distinct.of_map]
  constructor
  · intro h k
    refine Option.ext fun a => ?_
    rw [find?_eq_some_iff, find?_eq_some_iff, h]
  · intro h a
    rw [mem_items_iff, mem_items_iff, h]

/-- The items are what is found under the keys. -/
lemma items_eq_filterMap (c : Catalog key) : c.items = c.keys.filterMap c.find? := by
  rw [keys, List.filterMap_map]
  refine Eq.symm ((List.filterMap_congr fun a ha => ?_).trans List.filterMap_some)
  exact mem_items_iff.mp ha

/-- Two catalogues with the same keys in the same order that find the same are equal. -/
lemma ext_find? {c d : Catalog key} (hkeys : c.keys = d.keys) (hfind : ∀ k, c.find? k = d.find? k) :
    c = d :=
  ext (by rw [items_eq_filterMap, items_eq_filterMap, hkeys, funext hfind])

/-- After an item was entered, it is held, and of the others those with different keys. -/
lemma mem_insert_iff {c : Catalog key} {a b : α} :
    b ∈ (c.insert a).items ↔ b = a ∨ b ∈ c.items ∧ key a ≠ key b := by
  rw [mem_items_iff, mem_items_iff, find?_insert]
  by_cases hkey : key a = key b
  · rw [if_pos hkey, Option.some_inj]
    simp [hkey, eq_comm]
  · rw [if_neg hkey]
    have hne : b ≠ a := fun h => hkey (congrArg key h).symm
    simp [hkey, hne]

/-- An item with a known key takes the place of the one that has it. -/
lemma items_insert_of_split {c : Catalog key} {before after : List α} {old a : α}
    (hsplit : c.items = before ++ old :: after) (hkey : key old = key a) :
    (c.insert a).items = before ++ a :: after := by
  have hdistinct := c.distinct
  rw [hsplit, List.map_append, List.map_cons, List.nodup_middle, List.nodup_cons, List.mem_append,
    not_or] at hdistinct
  obtain ⟨⟨hbefore, hafter⟩, -⟩ := hdistinct
  have hother : ∀ others : List α, key old ∉ others.map key →
      (others.map fun b => if key b = key a then a else b) = others := by
    intro others hnot
    refine (List.map_congr_left fun b hb => if_neg fun heq => hnot ?_).trans (List.map_id _)
    exact (hkey.trans heq.symm) ▸ List.mem_map_of_mem hb
  have hmem : key a ∈ c.keys := by
    rw [← hkey, keys, hsplit]
    exact List.mem_map_of_mem (List.mem_append_right _ List.mem_cons_self)
  rw [items_insert_of_mem hmem, hsplit, List.map_append, List.map_cons, hother before hbefore,
    hother after hafter, if_pos hkey]

/-! ### Entering a list of items -/

/-- After entering a list of items, the last one with a key is found under it. -/
lemma find?_foldl_insert (c : Catalog key) (l : List α) (k : κ) :
    (l.foldl insert c).find? k = (l.reverse.find? fun a => key a = k).or (c.find? k) := by
  induction l generalizing c with
  | nil => rfl
  | cons a rest ih =>
      rw [List.foldl_cons, ih, find?_insert, List.reverse_cons, List.find?_append, Option.or_assoc]
      congr 1
      by_cases hkey : key a = k <;> simp [hkey]

/-- After entering a list of items, their keys are known and those that were known before. -/
lemma contains_foldl_insert_iff {c : Catalog key} {l : List α} {k : κ} :
    (l.foldl insert c).contains k = true ↔ k ∈ l.map key ∨ c.contains k = true := by
  rw [contains, find?_foldl_insert, Option.isSome_or, Bool.or_eq_true]
  refine or_congr_left ?_
  simp [List.find?_isSome]

/-- A catalogue filled from a list holds the last item with each key. -/
lemma mem_ofList_iff {l : List α} {a : α} :
    a ∈ (ofList l : Catalog key).items ↔ (l.reverse.find? fun b => key b = key a) = some a := by
  have hfound :
      (ofList l : Catalog key).find? (key a) = l.reverse.find? fun b => key b = key a := by
    rw [ofList, find?_foldl_insert]
    exact Option.or_none
  rw [mem_items_iff, hfound]

/-- The last item with its key stays in a catalogue that is filled from a list. -/
lemma mem_ofList_of_last {before after : List α} {a : α} (h : ∀ b ∈ after, key b ≠ key a) :
    a ∈ (ofList (before ++ a :: after) : Catalog key).items := by
  have hnone : (after.reverse.find? fun b => key b = key a) = none := by
    rw [List.find?_eq_none]
    intro b hb
    simpa using h b (List.mem_reverse.mp hb)
  rw [mem_ofList_iff]
  simp [List.find?_append, hnone]

/-- An item of a catalogue that is filled from a list is the last item of the list with its key. -/
lemma exists_split_of_mem_ofList {l : List α} {a : α} (h : a ∈ (ofList l : Catalog key).items) :
    ∃ before after, l = before ++ a :: after ∧ ∀ b ∈ after, key b ≠ key a := by
  obtain ⟨-, later, earlier, hsplit, hlater⟩ :=
    List.find?_eq_some_iff_append.mp (mem_ofList_iff.mp h)
  refine ⟨earlier.reverse, later.reverse, ?_, fun b hb => ?_⟩
  · rw [← l.reverse_reverse, hsplit, List.reverse_append, List.reverse_cons, List.append_assoc]
    rfl
  · simpa using hlater b (List.mem_reverse.mp hb)

/-- In a list without repetitions a new last entry comes last, and a known one is left out. -/
lemma eraseDups_concat (l : List κ) (k : κ) :
    (l ++ [k]).eraseDups = if k ∈ l then l.eraseDups else l.eraseDups ++ [k] := by
  rw [List.eraseDups_append]
  by_cases hk : k ∈ l <;> simp [List.removeAll, hk, List.eraseDups_cons]

/-- A catalogue is filled from a list one item at a time. -/
lemma ofList_concat (l : List α) (a : α) :
    (ofList (l ++ [a]) : Catalog key) = (ofList l).insert a := by
  rw [ofList, List.foldl_append]
  rfl

/-- The keys of a catalogue that is filled from a list, in the order in which they were first
entered. -/
lemma keys_ofList (l : List α) : (ofList l : Catalog key).keys = (l.map key).eraseDups := by
  induction l using List.reverseRecOn with
  | nil => rfl
  | append_singleton front a ih =>
      rw [ofList_concat, keys_insert, ih, List.map_append, List.map_singleton, eraseDups_concat]
      simp only [List.mem_eraseDups]

end UiBinding.Catalog
