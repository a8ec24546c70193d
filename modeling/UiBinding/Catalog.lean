/-
Catalogues: items in the order in which their keys were first entered, no two items with the same
key.  Every table of the library that is listed in entry order is one of these.

* `Catalog.insert` replaces the item that has the new item's key, where it stands, and otherwise
  appends;
* `find?_insert`: looking up after an insertion;
* `insert_of_mem`: entering an item again changes nothing;
* `keys_insert`: an insertion of a known key leaves the keys as they are, one of a new key puts it
  last;
* `find?_eq_some_iff`: an item is found under its own key, and only there.
-/

namespace UiBinding

/-- Items in entry order, of which no two have the same key. -/
structure Catalog {α κ : Type} (key : α → κ) where
  /-- The items, first entered first. -/
  items : List α
  distinct : (items.map key).Nodup

namespace Catalog

variable {α κ : Type} {key : α → κ}

/-- A catalogue is its list of items. -/
@[ext]
theorem ext {c d : Catalog key} (h : c.items = d.items) : c = d := by
  cases c; cases d; cases h; rfl

instance [DecidableEq α] : DecidableEq (Catalog key) := fun c d =>
  decidable_of_iff (c.items = d.items) ⟨ext, fun h => h ▸ rfl⟩

/-- The catalogue without items. -/
def empty : Catalog key := ⟨[], List.nodup_nil⟩

instance : Inhabited (Catalog key) := ⟨empty⟩

/-- The keys in entry order. -/
def keys (c : Catalog key) : List κ := c.items.map key

/-- The number of items. -/
def size (c : Catalog key) : Nat := c.items.length

/-- Whether there is no item. -/
def isEmpty (c : Catalog key) : Bool := c.items.isEmpty

/-! ### Changing every item -/

/-- Applies a change that leaves the keys alone to every item. -/
def mapItems (f : α → α) (keeps : ∀ a, key (f a) = key a) (c : Catalog key) : Catalog key where
  items := c.items.map f
  distinct := by
    have h : (c.items.map f).map key = c.items.map key := by simp [keeps]
    exact h ▸ c.distinct

@[simp]
theorem items_mapItems (f : α → α) (keeps : ∀ a, key (f a) = key a) (c : Catalog key) :
    (c.mapItems f keeps).items = c.items.map f := rfl

@[simp]
theorem keys_mapItems (f : α → α) (keeps : ∀ a, key (f a) = key a) (c : Catalog key) :
    (c.mapItems f keeps).keys = c.keys := by
  simp [keys, keeps]

variable [DecidableEq κ]

/-! ### Looking up -/

/-- The item that has a key. -/
def find? (c : Catalog key) (k : κ) : Option α := c.items.find? fun a => key a = k

/-- Whether an item has the key. -/
def contains (c : Catalog key) (k : κ) : Bool := (c.find? k).isSome

/-- An item is found under its own key, and only there. -/
theorem find?_eq_some_iff {c : Catalog key} {k : κ} {a : α} :
    c.find? k = some a ↔ a ∈ c.items ∧ key a = k := by
  refine ⟨fun h => ⟨List.mem_of_find?_eq_some h, by simpa using List.find?_some h⟩, ?_⟩
  rintro ⟨hmem, rfl⟩
  obtain ⟨items, distinct⟩ := c
  simp only [find?] at *
  induction items with
  | nil => cases hmem
  | cons b rest ih =>
    simp only [List.map_cons, List.nodup_cons] at distinct
    by_cases hb : key b = key a
    · rcases List.mem_cons.mp hmem with rfl | hrest
      · simp
      · exact absurd (hb ▸ List.mem_map_of_mem hrest) distinct.1
    · have hrest : a ∈ rest := (List.mem_cons.mp hmem).resolve_left fun h => hb (h ▸ rfl)
      simp [hb, ih distinct.2 hrest]

/-- A key is unknown exactly when it is not listed. -/
theorem find?_eq_none_iff {c : Catalog key} {k : κ} : c.find? k = none ↔ k ∉ c.keys := by
  simp [find?, keys]

/-- A key is known exactly when it is listed. -/
theorem contains_iff {c : Catalog key} {k : κ} : c.contains k = true ↔ k ∈ c.keys := by
  rw [contains, Option.isSome_iff_ne_none, ne_eq, find?_eq_none_iff, Decidable.not_not]

/-! ### Entering an item -/

/-- The item list after entering an item: in the place of the item that has its key, else last. -/
def entered (key : α → κ) (a : α) (items : List α) : List α :=
  if key a ∈ items.map key then items.map fun b => if key b = key a then a else b
  else items ++ [a]

/-- The keys after entering an item. -/
theorem map_key_entered (a : α) (items : List α) :
    (entered key a items).map key =
      if key a ∈ items.map key then items.map key else items.map key ++ [key a] := by
  unfold entered
  split
  · rw [List.map_map]
    refine List.map_congr_left fun b _ => ?_
    by_cases hb : key b = key a <;> simp [hb]
  · simp

/-- Enters an item: in the place of the item that has its key, else after all others. -/
def insert (c : Catalog key) (a : α) : Catalog key where
  items := entered key a c.items
  distinct := by
    rw [map_key_entered]
    split
    · exact c.distinct
    · next h =>
      refine List.nodup_append.mpr ⟨c.distinct, by simp, fun x hx y hy hxy => h ?_⟩
      rw [List.mem_singleton] at hy
      exact hy ▸ hxy ▸ hx

/-- A known key keeps its place, a new one comes last. -/
theorem keys_insert (c : Catalog key) (a : α) :
    (c.insert a).keys = if key a ∈ c.keys then c.keys else c.keys ++ [key a] :=
  map_key_entered a c.items

/-- The items after entering one with a new key. -/
theorem items_insert_of_not_mem {c : Catalog key} {a : α} (h : key a ∉ c.keys) :
    (c.insert a).items = c.items ++ [a] := by
  have h' : ¬ key a ∈ c.items.map key := h
  simp [insert, entered, h']

/-- The items after entering one with a known key. -/
theorem items_insert_of_mem {c : Catalog key} {a : α} (h : key a ∈ c.keys) :
    (c.insert a).items = c.items.map fun b => if key b = key a then a else b := by
  have h' : key a ∈ c.items.map key := h
  simp only [insert, entered, h', if_true]

/-- Entering an item again changes nothing. -/
theorem insert_of_mem {c : Catalog key} {a : α} (h : a ∈ c.items) : c.insert a = c := by
  refine ext ?_
  rw [items_insert_of_mem (List.mem_map_of_mem h)]
  refine (List.map_congr_left fun b hb => ?_).trans (List.map_id _)
  split
  · next hkey =>
    have hfound : c.find? (key a) = some b := find?_eq_some_iff.mpr ⟨hb, hkey⟩
    rw [find?_eq_some_iff.mpr ⟨h, rfl⟩] at hfound
    exact Option.some.inj hfound
  · rfl

/-- Enters the items of a list one after the other. -/
def ofList (items : List α) : Catalog key := items.foldl insert empty

/-- Changes the item that has a key, if there is one, by a change that leaves the keys alone. -/
def modify (c : Catalog key) (k : κ) (f : α → α) (keeps : ∀ a, key (f a) = key a) : Catalog key :=
  c.mapItems (fun a => if key a = k then f a else a) fun a => by
    by_cases h : key a = k <;> simp [h, keeps]

/-- Looking up after an insertion. -/
theorem find?_insert (c : Catalog key) (a : α) (k : κ) :
    (c.insert a).find? k = if key a = k then some a else c.find? k := by
  by_cases hmem : key a ∈ c.keys
  · simp only [find?, items_insert_of_mem hmem]
    obtain ⟨items, distinct⟩ := c
    change key a ∈ items.map key at hmem
    by_cases hk : key a = k
    · subst hk
      simp only [if_true]
      clear distinct
      induction items with
      | nil => cases hmem
      | cons b rest ih =>
        by_cases hb : key b = key a
        · simp [hb]
        · have hrest : key a ∈ rest.map key := by
            rcases List.mem_cons.mp hmem with h | h
            · exact absurd h.symm hb
            · exact h
          simpa [hb] using ih hrest
    · simp only [hk, if_false]
      clear distinct hmem
      induction items with
      | nil => rfl
      | cons b rest ih =>
        by_cases hb : key b = key a
        · have hbk : key b ≠ k := fun h => hk (hb ▸ h)
          simp only [List.map_cons, hb, if_true, List.find?_cons, hk, decide_false]
          simpa [hb ▸ hk] using ih
        · simp only [List.map_cons, hb, if_false, List.find?_cons]
          by_cases hbk : key b = k
          · simp only [hbk, decide_true]
          · simpa only [hbk, decide_false] using ih
  · simp only [find?, items_insert_of_not_mem hmem, List.find?_append]
    by_cases hk : key a = k
    · subst hk
      have hnone : c.items.find? (fun b => key b = key a) = none := by
        simpa [keys] using hmem
      simp [hnone]
    · simp [hk]

end Catalog

end UiBinding
