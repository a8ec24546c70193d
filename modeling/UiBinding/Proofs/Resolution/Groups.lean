/-
Exports as an ordered set: what is grouped after keys have been entered one after the other.

A package gets its group when the first of its components is entered, and a component its place in
the group when it is entered first.  So the groups are the packages and their components in the
order in which they were first entered, whatever stands between them and however often.

* `find?_groups_insertAll` and `keys_groupOf_insertAll`: the group of a package;
* `componentCount_insert` and `componentCount_reachAll`: the number of components;
* `Exports.shelves` holds the keys themselves, under the identifiers they were entered with, and
  `shelves_insert` says that this is the same table;
* `entered_in_order`: what there is after any keys have been entered.
-/
import UiBinding.Proofs.Exports
import UiBinding.Proofs.Registry.Tables
import UiBinding.Proofs.Resolution.Pipeline

namespace UiBinding

namespace Exports

/-! ### The group of a package -/

lemma insertAll_concat (e : Exports) (keys : List Component.Key) (key : Component.Key) :
    e.insertAll (keys ++ [key]) = (e.insertAll keys).insert key := by
  rw [insertAll, List.foldl_append]
  rfl

/-- The group of a package has its identifier. -/
lemma groupOf_eq (e : Exports) (packageId : String) :
    e.groupOf packageId = ⟨packageId, (e.groupOf packageId).componentIds⟩ := by
  have hid : (e.groupOf packageId).packageId = packageId := by
    rw [groupOf]
    cases hfound : e.groups.find? packageId with
    | none => rfl
    | some g => exact (Catalog.find?_eq_some_iff.mp hfound).2
  generalize e.groupOf packageId = g at hid
  cases hid
  rfl

/-- Only the group of its package is changed by a key. -/
lemma groupOf_insert (e : Exports) (key : Component.Key) (packageId : String) :
    (e.insert key).groupOf packageId = if key.packageId = packageId then
      ⟨packageId, (e.groupOf packageId).componentIds.insert key.componentId⟩
    else e.groupOf packageId := by
  rw [groupOf, insert, Catalog.find?_insert]
  by_cases h : key.packageId = packageId
  · simp [h]
  · simp [h, groupOf]

/-- The packages in the order in which they were first entered. -/
lemma keys_groups_insertAll (keys : List Component.Key) :
    (empty.insertAll keys).groups.keys = (keys.map Component.Key.packageId).eraseDups := by
  induction keys using List.reverseRecOn with
  | nil => rfl
  | append_singleton front key ih =>
      rw [insertAll_concat, insert, Catalog.keys_insert, ih, List.map_append, List.map_singleton,
        Catalog.eraseDups_concat]
      simp only [List.mem_eraseDups]

/-- The identifiers in the group of a package are entered in the order of its keys. -/
lemma groupOf_insertAll (keys : List Component.Key) (packageId : String) :
    (empty.insertAll keys).groupOf packageId = ⟨packageId, Catalog.ofList
      ((keys.filter fun key => key.packageId = packageId).map Component.Key.componentId)⟩ := by
  induction keys using List.reverseRecOn with
  | nil => rfl
  | append_singleton front key ih =>
      rw [insertAll_concat, groupOf_insert, ih, List.filter_append]
      by_cases h : key.packageId = packageId
      · simp [h, Catalog.ofList_concat]
      · simp [h]

/-- To forget the package of keys that all have the same one is to lose nothing. -/
lemma map_eraseDups_componentId {keys : List Component.Key} {packageId : String}
    (h : ∀ key ∈ keys, key.packageId = packageId) :
    ((keys.map Component.Key.componentId).eraseDups.map fun id => ⟨packageId, id⟩) =
      keys.eraseDups := by
  induction keys using List.reverseRecOn with
  | nil => rfl
  | append_singleton front key ih =>
      obtain ⟨hfront, hkey⟩ := List.forall_mem_append.mp h
      obtain rfl := hkey key (List.mem_singleton_self key)
      have hmem : key.componentId ∈ front.map Component.Key.componentId ↔ key ∈ front := by
        refine ⟨fun hid => ?_, fun hmem => List.mem_map_of_mem hmem⟩
        obtain ⟨other, hother, hid⟩ := List.mem_map.mp hid
        rwa [← Component.Key.ext (hfront other hother) hid]
      rw [List.map_append, List.map_singleton, Catalog.eraseDups_concat, Catalog.eraseDups_concat,
        ← ih hfront]
      simp only [hmem]
      split
      · rfl
      · simp

/-- **The group of a package** holds its keys in the order in which they were first entered. -/
lemma keys_groupOf_insertAll (keys : List Component.Key) (packageId : String) :
    ((empty.insertAll keys).groupOf packageId).keys =
      (keys.filter fun key => key.packageId = packageId).eraseDups := by
  have hown : ∀ key ∈ keys.filter fun key => key.packageId = packageId,
      key.packageId = packageId := fun key hkey => by simpa using (List.mem_filter.mp hkey).2
  rw [groupOf_insertAll, Group.keys, ← map_eraseDups_componentId hown]
  have hitems : ∀ ids : Catalog (id : String → String), ids.items = ids.keys :=
    fun ids => (List.map_id _).symm
  rw [hitems, Catalog.keys_ofList, List.map_id]

/-- The groups of all packages. -/
lemma groups_insertAll (keys : List Component.Key) :
    ((empty.insertAll keys).groups.items.map fun g => (g.packageId, g.keys)) =
      (keys.map Component.Key.packageId).eraseDups.map fun packageId =>
        (packageId, (keys.filter fun key => key.packageId = packageId).eraseDups) := by
  rw [← keys_groups_insertAll, Catalog.keys, List.map_map]
  refine List.map_congr_left fun g hg => ?_
  have hgroup : (empty.insertAll keys).groupOf g.packageId = g := by
    rw [groupOf, Catalog.find?_eq_some_iff.mpr ⟨hg, rfl⟩, Option.getD_some]
  rw [Function.comp_apply, ← keys_groupOf_insertAll, hgroup]

/-! ### The number of components -/

/-- A key that is entered counts if it is new. -/
lemma componentCount_insert (e : Exports) (key : Component.Key) :
    (e.insert key).componentCount =
      if e.contains key then e.componentCount else e.componentCount + 1 := by
  split
  · next h => rw [insert_of_contains h]
  · next h =>
      have hnew : key ∉ e.keys := fun hmem => h (contains_iff_mem_keys.mpr hmem)
      have hperm : (e.insert key).keys.Perm (key :: e.keys) := by
        rw [List.perm_ext_iff_of_nodup (nodup_keys _) (List.nodup_cons.mpr ⟨hnew, nodup_keys e⟩)]
        intro other
        rw [← contains_iff_mem_keys, contains_insert, Bool.or_eq_true, decide_eq_true_eq,
          contains_iff_mem_keys, List.mem_cons, eq_comm]
      rw [componentCount, hperm.length_eq, List.length_cons, componentCount]

end Exports

namespace ExportPass

variable (config : Config)

/-- A step counts what it enters. -/
lemma componentCount_reach (p : ExportPass) (key : Component.Key) :
    (p.reach config key).exports.componentCount + p.added =
      p.exports.componentCount + (p.reach config key).added := by
  rw [reach]
  split
  · rfl
  · split
    · rfl
    · next h =>
        dsimp only
        rw [Exports.componentCount_insert, if_neg h]
        omega

/-- **The pass counts** by how many components the exports grow. -/
lemma componentCount_reachAll (p : ExportPass) (keys : List Component.Key) :
    (p.reachAll config keys).exports.componentCount + p.added =
      p.exports.componentCount + (p.reachAll config keys).added := by
  induction keys generalizing p with
  | nil => rfl
  | cons key keys ih =>
      have hfirst := p.componentCount_reach config key
      have hrest := ih (p.reach config key)
      rw [reachAll, List.foldl_cons, ← reachAll]
      omega

end ExportPass

/-! ### The keys themselves -/

/-- The item in the row that has a key. -/
def Table.find? {κ α : Type} [DecidableEq κ] (t : Table κ α) (k : κ) : Option α :=
  (t.rows.find? fun row => row.1 = k).map Prod.snd

namespace Exports

/-- A table for each package, in which the keys themselves stand under their identifiers. -/
abbrev Shelves := Table String (Table String Component.Key)

/-- Enters a key into the table of its package, which is a new one for a new package. -/
def Shelves.put (t : Shelves) (key : Component.Key) : Shelves :=
  t.enter key.packageId (((t.find? key.packageId).getD .empty).enter key.componentId key)

/-- The table of a group. -/
def Group.shelf (g : Group) : Table String Component.Key :=
  ⟨g.componentIds.items.map fun id => (id, ⟨g.packageId, id⟩)⟩

/-- The tables of all groups. -/
def shelves (e : Exports) : Shelves := ⟨e.groups.items.map fun g => (g.packageId, g.shelf)⟩

lemma keys_shelves (e : Exports) : Table.keys e.shelves = e.groups.keys := by
  rw [Table.keys, shelves, List.map_map]
  rfl

lemma find?_shelves (e : Exports) (packageId : String) :
    (Table.find? e.shelves packageId).getD .empty = (e.groupOf packageId).shelf := by
  have hfound : Table.find? e.shelves packageId =
      (e.groups.find? packageId).map Group.shelf := by
    rw [Table.find?, shelves, List.find?_map, Option.map_map]
    rfl
  rw [hfound, groupOf]
  cases e.groups.find? packageId <;> rfl

/-- In the tables of the groups every key stands under its own identifiers. -/
lemma key_of_mem_shelves (e : Exports) :
    ∀ row ∈ e.shelves.rows, ∀ entry ∈ row.2.rows, entry.2 = ⟨row.1, entry.1⟩ := by
  intro row hrow entry hentry
  obtain ⟨g, -, rfl⟩ := List.mem_map.mp hrow
  obtain ⟨id, -, rfl⟩ := List.mem_map.mp hentry
  rfl

/-- To enter a key under its own identifier is to enter its identifier. -/
lemma shelf_insert (key : Component.Key) (ids : Catalog (id : String → String)) :
    (Group.mk key.packageId (ids.insert key.componentId)).shelf =
      (Group.mk key.packageId ids).shelf.enter key.componentId key := by
  have hkeys : (Group.mk key.packageId ids).shelf.keys = ids.keys := by
    rw [Table.keys, Group.shelf, List.map_map]
    rfl
  rw [Table.enter, hkeys]
  by_cases hmem : key.componentId ∈ ids.keys
  · rw [if_pos hmem, Group.shelf, Group.shelf, Catalog.items_insert_of_mem hmem, List.map_map,
      List.map_map]
    congr 1
    refine List.map_congr_left fun id _ => ?_
    by_cases h : id = key.componentId <;> simp [h]
  · rw [if_neg hmem, Group.shelf, Catalog.items_insert_of_not_mem hmem, List.map_append]
    rfl

/-- **The tables follow the groups** when a key is entered. -/
lemma shelves_insert (e : Exports) (key : Component.Key) :
    (e.insert key).shelves = Shelves.put e.shelves key := by
  rw [Shelves.put, find?_shelves, groupOf_eq, ← shelf_insert, Table.enter, keys_shelves, insert]
  by_cases hmem : key.packageId ∈ e.groups.keys
  · rw [if_pos hmem, shelves, shelves, Catalog.items_insert_of_mem hmem, List.map_map, List.map_map]
    congr 1
    refine List.map_congr_left fun g _ => ?_
    by_cases h : g.packageId = key.packageId <;> simp [h]
  · rw [if_neg hmem, shelves, Catalog.items_insert_of_not_mem hmem, List.map_append]
    rfl

lemma shelves_insertAll (e : Exports) (keys : List Component.Key) :
    (e.insertAll keys).shelves = keys.foldl Shelves.put e.shelves := by
  induction keys generalizing e with
  | nil => rfl
  | cons key keys ih =>
      rw [List.foldl_cons, ← shelves_insert, ← ih]
      rfl

/-! ### After any keys -/

/-- A key is contained after keys have been entered into empty exports if it is one of them. -/
lemma mem_keys_insertAll_iff {keys : List Component.Key} {key : Component.Key} :
    key ∈ (empty.insertAll keys).keys ↔ key ∈ keys := by
  have hempty : empty.contains key ≠ true := Bool.false_ne_true
  rw [← contains_iff_mem_keys, contains_insertAll_iff, or_iff_left hempty]

/-- **Exports are a set of keys in the order in which they were entered.**  After any keys have been
entered, exactly these are contained, and none is counted twice.  The groups are those of their
packages in the order in which the packages were first entered; each holds the keys of its package
in the order in which they were first entered, at least one of them.  A key that is entered again
changes nothing.  If the keys themselves are entered into a table for each package, the tables hold
the same, and every key stands under its own identifiers.  So the pass that exports what root panels
lead to counts by how many components the exports grow. -/
theorem entered_in_order (keys : List Component.Key) :
    let e := empty.insertAll keys
    (∀ key, e.contains key = true ↔ key ∈ keys) ∧
    e.componentCount = keys.toFinset.card ∧
    e.packageCount = (keys.map Component.Key.packageId).toFinset.card ∧
    (e.isEmpty = true ↔ keys = []) ∧
    ((e.groups.items.map fun g => (g.packageId, g.keys)) =
      (keys.map Component.Key.packageId).eraseDups.map fun packageId =>
        (packageId, (keys.filter fun key => key.packageId = packageId).eraseDups)) ∧
    (∀ g ∈ e.groups.items, g.keys ≠ []) ∧
    (∀ key ∈ keys, e.insert key = e) ∧
    (keys.foldl Shelves.put .empty = e.shelves ∧
      ∀ row ∈ e.shelves.rows, ∀ entry ∈ row.2.rows, entry.2 = ⟨row.1, entry.1⟩) ∧
    ∀ (config : Config) (registry : Registry) (exports : Exports) (reached : List Component.Key),
      let after := ExportPass.reachAll config ⟨registry, exports, 0⟩ reached
      after.exports.componentCount = exports.componentCount + after.added := by
  intro e
  have hcontains : ∀ key, e.contains key = true ↔ key ∈ keys := fun key =>
    contains_iff_mem_keys.trans mem_keys_insertAll_iff
  have hfilled : e.Filled := filled_empty.insertAll keys
  refine ⟨hcontains, ?_, ?_, ?_, groups_insertAll keys, hfilled,
    fun key hkey => insert_of_contains ((hcontains key).mpr hkey),
    ⟨(shelves_insertAll empty keys).symm, key_of_mem_shelves e⟩,
    fun config registry exports reached => ?_⟩
  · have hkeys : e.keys.toFinset = keys.toFinset := by
      ext key
      rw [List.mem_toFinset, List.mem_toFinset, mem_keys_insertAll_iff]
    rw [componentCount, ← List.toFinset_card_of_nodup (nodup_keys e), hkeys]
  · have hids : e.groups.keys.toFinset = (keys.map Component.Key.packageId).toFinset := by
      ext packageId
      rw [List.mem_toFinset, List.mem_toFinset, keys_groups_insertAll, List.mem_eraseDups]
    calc e.packageCount
        = e.groups.keys.length := (List.length_map _).symm
      _ = e.groups.keys.toFinset.card := (List.toFinset_card_of_nodup e.groups.distinct).symm
      _ = (keys.map Component.Key.packageId).toFinset.card := congrArg Finset.card hids
  · rw [hfilled.isEmpty_iff, List.eq_nil_iff_forall_not_mem, List.eq_nil_iff_forall_not_mem]
    exact forall_congr' fun key => not_congr mem_keys_insertAll_iff
  · exact ExportPass.componentCount_reachAll config ⟨registry, exports, 0⟩ reached

/-- Keys of two packages in turn, one of them twice. -/
theorem entered_in_order_mixed :
    let keys : List Component.Key := [⟨"p", "b"⟩, ⟨"q", "a"⟩, ⟨"p", "a"⟩, ⟨"p", "b"⟩]
    let e := empty.insertAll keys
    ⟨"p", "b"⟩ ∈ keys ∧ e.insert ⟨"p", "b"⟩ = e ∧ e.componentCount = 3 ∧ e.packageCount = 2 ∧
      (e.groups.items.map fun g => (g.packageId, g.keys)) =
        [("p", [⟨"p", "b"⟩, ⟨"p", "a"⟩]), ("q", [⟨"q", "a"⟩])] := by
  intro keys e
  obtain ⟨-, hcount, hpackages, -, hgroups, -, hagain, -⟩ := entered_in_order keys
  have hmem : (⟨"p", "b"⟩ : Component.Key) ∈ keys := List.mem_cons_self
  exact ⟨hmem, hagain _ hmem, hcount.trans (by decide), hpackages.trans (by decide),
    hgroups.trans (by decide +kernel)⟩

end Exports

end UiBinding
