/-
Exports: the components that get a generated class, grouped by package.

Groups stand in the order in which their packages were first entered, and so do the components in
a group.

* `contains_insert`: exactly the entered component is added;
* `insert_of_contains`: entering a component again changes nothing.
-/
import UiBinding.Catalog
import UiBinding.Component.Key

namespace UiBinding

/-- The exported components of one package. -/
structure Exports.Group where
  packageId : String
  componentIds : Catalog (id : String → String)

/-- The exported components, a group for each package. -/
structure Exports where
  groups : Catalog Exports.Group.packageId

namespace Exports

/-- The keys of the components in a group. -/
def Group.keys (g : Group) : List Component.Key :=
  g.componentIds.items.map fun id => ⟨g.packageId, id⟩

/-- The exports without components. -/
def empty : Exports := ⟨.empty⟩

instance : Inhabited Exports := ⟨empty⟩

/-- The group of a package; a package that was not entered has an empty one. -/
def groupOf (e : Exports) (packageId : String) : Group :=
  (e.groups.find? packageId).getD ⟨packageId, .empty⟩

/-- Enters a component into the group of its package. -/
def insert (e : Exports) (key : Component.Key) : Exports :=
  ⟨e.groups.insert ⟨key.packageId, (e.groupOf key.packageId).componentIds.insert key.componentId⟩⟩

/-- Whether a component was entered. -/
def contains (e : Exports) (key : Component.Key) : Bool :=
  (e.groups.find? key.packageId).any fun g => g.componentIds.contains key.componentId

/-- Enters components one after the other. -/
def insertAll (e : Exports) (keys : List Component.Key) : Exports := keys.foldl insert e

/-- The keys of all components, group by group. -/
def keys (e : Exports) : List Component.Key := e.groups.items.flatMap Group.keys

/-- The number of packages with an exported component. -/
def packageCount (e : Exports) : Nat := e.groups.size

/-- The number of exported components. -/
def componentCount (e : Exports) : Nat := e.keys.length

/-- Whether no component is exported. -/
def isEmpty (e : Exports) : Bool := e.groups.isEmpty

/-! ### Laws -/

/-- Exactly the entered component is added. -/
theorem contains_insert (e : Exports) (key other : Component.Key) :
    (e.insert key).contains other = (decide (key = other) || e.contains other) := by
  obtain ⟨p, c⟩ := key
  obtain ⟨q, d⟩ := other
  simp only [contains, insert, Catalog.find?_insert, groupOf]
  by_cases hp : p = q
  · subst hp
    simp only [if_true, Option.any_some, Catalog.contains, Catalog.find?_insert]
    by_cases hc : c = d
    · simp [hc]
    · cases e.groups.find? p <;> simp [hc, Catalog.empty, Catalog.find?]
  · simp [hp]

/-- Every key that is listed is contained, and the other way round. -/
theorem contains_iff_mem_keys {e : Exports} {key : Component.Key} :
    e.contains key = true ↔ key ∈ e.keys := by
  simp only [contains, Option.any_eq_true, keys, List.mem_flatMap, Group.keys, List.mem_map]
  constructor
  · rintro ⟨g, hg, hc⟩
    obtain ⟨hmem, hid⟩ := Catalog.find?_eq_some_iff.mp hg
    rw [Catalog.contains_iff, Catalog.keys, List.map_id] at hc
    exact ⟨g, hmem, key.componentId, hc, by rw [hid]⟩
  · rintro ⟨g, hg, id, hid, rfl⟩
    refine ⟨g, Catalog.find?_eq_some_iff.mpr ⟨hg, rfl⟩, ?_⟩
    rw [Catalog.contains_iff, Catalog.keys, List.map_id]
    exact hid

/-- Entering a component again changes nothing. -/
theorem insert_of_contains {e : Exports} {key : Component.Key} (h : e.contains key = true) :
    e.insert key = e := by
  obtain ⟨g, hg, hc⟩ := (Option.any_eq_true _ _).mp h
  obtain ⟨hmem, hid⟩ := Catalog.find?_eq_some_iff.mp hg
  rw [Catalog.contains_iff, Catalog.keys, List.map_id] at hc
  have hgroup : e.groupOf key.packageId = g := by simp [groupOf, hg]
  have hsame : (⟨key.packageId, g.componentIds⟩ : Group) = g := by
    obtain ⟨p, ids⟩ := g
    cases hid
    rfl
  unfold insert
  rw [hgroup, Catalog.insert_of_mem hc, hsame, Catalog.insert_of_mem hmem]

end Exports

end UiBinding
