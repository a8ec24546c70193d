/-
Tables: a registry whose rows keep the keys they were entered under.

A catalogue knows an item by the key that can be read off it, and its changes are such as leave that
key alone.  A table is told a key when an item is entered, keeps it beside the item, and changes the
item in its row whatever becomes of the item's own key.  The passes over a registry are lists of
writes to its tables; made one after the other, they leave the items under their own keys.

* `Catalog.table` has a row for every item, under the item's own key;
* `table_insert`, `table_modify` and `table_mapItems`: what the catalogue does is what the table
  does;
* `Registry.Write` is one change of the tables of a registry, `Tables.write` makes it;
* `replay_typeWrites` and `replay_reachWrites`: the type pass, and the pass that exports what root
  panels lead to, as lists of writes.
-/
import UiBinding.Proofs.Resolution.Annotation

namespace UiBinding

/-! ### Rows with their keys -/

/-- Rows in entry order, each with the key it was entered under. -/
structure Table (κ α : Type) where
  rows : List (κ × α)

namespace Table

variable {κ α : Type}

/-- The table without rows. -/
def empty : Table κ α := ⟨[]⟩

/-- The keys in entry order. -/
def keys (t : Table κ α) : List κ := t.rows.map Prod.fst

/-- Changes the item in every row. -/
def amendAll (t : Table κ α) (f : α → α) : Table κ α := ⟨t.rows.map fun row => (row.1, f row.2)⟩

variable [DecidableEq κ]

/-- Enters an item under a key: in the row that has the key, else in a new last row. -/
def enter (t : Table κ α) (k : κ) (a : α) : Table κ α :=
  ⟨if k ∈ t.keys then t.rows.map fun row => if row.1 = k then (row.1, a) else row
    else t.rows ++ [(k, a)]⟩

/-- Changes the item in the row that has a key. -/
def amend (t : Table κ α) (k : κ) (f : α → α) : Table κ α :=
  ⟨t.rows.map fun row => if row.1 = k then (row.1, f row.2) else row⟩

end Table

namespace Catalog

variable {α κ : Type} {key : α → κ}

/-- The table of a catalogue: every item in a row under its own key. -/
def table (c : Catalog key) : Table κ α := ⟨c.items.map fun a => (key a, a)⟩

lemma keys_table (c : Catalog key) : c.table.keys = c.keys := by
  rw [Table.keys, table, List.map_map]
  rfl

/-- In the table of a catalogue every item stands under its own key. -/
lemma key_of_mem_table {c : Catalog key} : ∀ row ∈ c.table.rows, key row.2 = row.1 := by
  intro row hrow
  obtain ⟨a, -, rfl⟩ := List.mem_map.mp hrow
  rfl

lemma table_mapItems {f : α → α} (keeps : ∀ a, key (f a) = key a) (c : Catalog key) :
    (c.mapItems f keeps).table = c.table.amendAll f := by
  simp only [table, Table.amendAll, items_mapItems, List.map_map]
  congr 1
  exact List.map_congr_left fun a _ => by simp [keeps]

variable [DecidableEq κ]

/-- To enter an item into a catalogue is to enter it into the table under its own key. -/
lemma table_insert (c : Catalog key) (a : α) : (c.insert a).table = c.table.enter (key a) a := by
  rw [Table.enter, keys_table]
  by_cases hmem : key a ∈ c.keys
  · simp only [table, items_insert_of_mem hmem, if_pos hmem, List.map_map]
    congr 1
    refine List.map_congr_left fun b _ => ?_
    by_cases hkey : key b = key a <;> simp [hkey]
  · simp [table, items_insert_of_not_mem hmem, if_neg hmem]

/-- To change the item that has a key is to change the item in the row that has it. -/
lemma table_modify (c : Catalog key) (k : κ) {f : α → α} (keeps : ∀ a, key (f a) = key a) :
    (c.modify k f keeps).table = c.table.amend k f := by
  simp only [modify, table, Table.amend, items_mapItems, List.map_map]
  congr 1
  refine List.map_congr_left fun a _ => ?_
  by_cases hkey : key a = k <;> simp [hkey, keeps]

end Catalog

/-! ### The tables of a registry -/

/-- The tables of a registry, with the problems that were noted. -/
structure Registry.Tables where
  packages : Table String Package
  components : Table Component.Key Component
  warnings : List Diagnostic

namespace Registry

/-- One change of the tables of a registry. -/
inductive Write where
  /-- A package is entered under its identifier. -/
  | package (p : Package)
  /-- A component is entered under its key. -/
  | component (c : Component)
  | warning (problem : Diagnostic)
  /-- It is decided of every component whether it is exported. -/
  | decide (requests : ExportRequests) (config : Config)
  /-- The member at a place of the component under a key gets a type. -/
  | type (note : TypeNote)
  /-- A root panel leads to the component under a key, which may be exported already. -/
  | reach (config : Config) (key : Component.Key) (exported : Bool)

namespace Tables

/-- The tables without rows. -/
def empty : Tables := ⟨.empty, .empty, []⟩

/-- Makes a change in its place. -/
def write (t : Tables) : Write → Tables
  | .package p => { t with packages := t.packages.enter p.id p }
  | .component c => { t with components := t.components.enter c.key c }
  | .warning problem => { t with warnings := t.warnings ++ [problem] }
  | .decide requests config =>
    { t with components := t.components.amendAll (Component.decideExport requests config) }
  | .type note =>
    { t with
      components := t.components.amend note.component
        (Component.noteType note.place note.typing?) }
  | .reach config key exported =>
    { t with
      components := t.components.amend key fun c =>
        if exported then c.markReachable else c.markReachable.markExported config }

/-- Makes changes one after the other. -/
def replay (t : Tables) (writes : List Write) : Tables := writes.foldl write t

lemma replay_append (t : Tables) (first second : List Write) :
    t.replay (first ++ second) = (t.replay first).replay second := List.foldl_append

/-- Every row holds an item under the item's own key, and no two rows have the same key. -/
structure Keyed (t : Tables) : Prop where
  packages : ∀ row ∈ t.packages.rows, row.2.id = row.1
  components : ∀ row ∈ t.components.rows, row.2.key = row.1
  packageIds : t.packages.keys.Nodup
  componentKeys : t.components.keys.Nodup

end Tables

/-- The tables of a registry: packages and components under their own keys. -/
def tables (r : Registry) : Tables := ⟨r.packages.table, r.components.table, r.warnings⟩

lemma keyed_tables (r : Registry) : r.tables.Keyed where
  packages := Catalog.key_of_mem_table
  components := Catalog.key_of_mem_table
  packageIds := r.packages.keys_table ▸ r.packages.distinct
  componentKeys := r.components.keys_table ▸ r.components.distinct

lemma tables_mapComponents (r : Registry) {f : Component → Component}
    (keeps : ∀ c, (f c).key = c.key) :
    (r.mapComponents f keeps).tables =
      { r.tables with components := r.tables.components.amendAll f } :=
  congrArg (Tables.mk r.packages.table · r.warnings) (Catalog.table_mapItems keeps r.components)

lemma tables_modifyComponent (r : Registry) (key : Component.Key) {f : Component → Component}
    (keeps : ∀ c, (f c).key = c.key) :
    (r.modifyComponent key f keeps).tables =
      { r.tables with components := r.tables.components.amend key f } :=
  congrArg (Tables.mk r.packages.table · r.warnings) (Catalog.table_modify r.components key keeps)

/-! ### The passes as writes -/

/-- The export pass is one write. -/
lemma write_decide (r : Registry) (requests : ExportRequests) (config : Config) :
    r.tables.write (.decide requests config) = (r.markExports requests config).registry.tables :=
  (r.tables_mapComponents (Component.key_decideExport requests config)).symm

/-- The writes of the type pass, one for each member. -/
def typeWrites (r : Registry) : List Write := r.typeNotes.map .type

/-- The type pass makes its writes one after the other. -/
lemma replay_typeWrites (r : Registry) : r.tables.replay r.typeWrites = r.resolveTypes.tables := by
  have hnotes : ∀ (notes : List TypeNote) (s : Registry),
      s.tables.replay (notes.map .type) = (notes.foldl writeNote s).tables := by
    intro notes
    induction notes with
    | nil => exact fun _ => rfl
    | cons note rest ih =>
        intro s
        have hfirst : s.tables.write (.type note) = (s.writeNote note).tables :=
          (s.tables_modifyComponent note.component _).symm
        rw [List.foldl_cons, ← ih, ← hfirst]
        rfl
  rw [typeWrites, hnotes, foldl_writeNote_typeNotes]

end Registry

namespace ExportPass

variable (config : Config)

/-- The writes that are made for a key, one if it is registered. -/
def reachWrite (p : ExportPass) (key : Component.Key) : List Registry.Write :=
  if (p.registry.component? key).isNone then []
  else [.reach config key (p.exports.contains key)]

/-- The writes of the pass that exports what root panels lead to. -/
def reachWrites (p : ExportPass) : List Component.Key → List Registry.Write
  | [] => []
  | key :: keys => p.reachWrite config key ++ reachWrites (p.reach config key) keys

lemma replay_reachWrite (p : ExportPass) (key : Component.Key) :
    p.registry.tables.replay (p.reachWrite config key) = (p.reach config key).registry.tables := by
  rw [reachWrite, reach]
  split
  · rfl
  · cases p.exports.contains key with
    | false => exact (p.registry.tables_modifyComponent key _).symm
    | true => exact (p.registry.tables_modifyComponent key _).symm

/-- The pass makes its writes one after the other. -/
lemma replay_reachWrites (p : ExportPass) (keys : List Component.Key) :
    p.registry.tables.replay (p.reachWrites config keys) =
      (p.reachAll config keys).registry.tables := by
  induction keys generalizing p with
  | nil => rfl
  | cons key keys ih =>
      rw [reachWrites, Registry.Tables.replay_append, replay_reachWrite, ih]
      rfl

end ExportPass

end UiBinding
