/-
Exports as a table of groups: every key stands in one place, and no group is empty.

* `nodup_keys`: no key is listed twice, whatever was entered;
* `Exports.Filled` is that every group has a component; entering keys keeps it.
-/
import UiBinding.Proofs.Catalog
import UiBinding.Resolution.Exports

namespace UiBinding.Exports

/-- The keys of a group are different. -/
lemma Group.nodup_keys (g : Group) : g.keys.Nodup := by
  have hids : g.componentIds.items.Nodup := by simpa using g.componentIds.distinct
  refine hids.map fun id other h => ?_
  exact congrArg Component.Key.componentId h

/-- No key is listed twice. -/
lemma nodup_keys (e : Exports) : e.keys.Nodup := by
  have hgroups : e.groups.items.Pairwise fun g h => g.packageId ≠ h.packageId :=
    List.pairwise_map.mp e.groups.distinct
  refine List.nodup_flatMap.mpr ⟨fun g _ => g.nodup_keys, hgroups.imp fun hne => ?_⟩
  -- the keys of a group have the identifier of its package
  intro key hkey hother
  obtain ⟨_, -, rfl⟩ := List.mem_map.mp hkey
  obtain ⟨_, -, heq⟩ := List.mem_map.mp hother
  exact hne (congrArg Component.Key.packageId heq).symm

/-! ### No group is empty -/

/-- Every group has a component. -/
def Filled (e : Exports) : Prop := ∀ g ∈ e.groups.items, g.keys ≠ []

lemma filled_empty : empty.Filled := nofun

/-- A component that is entered fills its group. -/
lemma Filled.insert {e : Exports} (h : e.Filled) (key : Component.Key) : (e.insert key).Filled := by
  intro g hg
  rcases Catalog.mem_insert_iff.mp hg with rfl | ⟨hg, -⟩
  · have hid : key.componentId ∈
        ((e.groupOf key.packageId).componentIds.insert key.componentId).items :=
      Catalog.mem_insert_iff.mpr (Or.inl rfl)
    exact fun hnil => List.ne_nil_of_mem hid (List.map_eq_nil_iff.mp hnil)
  · exact h g hg

lemma Filled.insertAll {e : Exports} (h : e.Filled) (keys : List Component.Key) :
    (e.insertAll keys).Filled := by
  induction keys generalizing e with
  | nil => exact h
  | cons key keys ih => exact ih (h.insert key)

/-- If no group is empty, there is a group only where there is a component. -/
lemma Filled.isEmpty_iff {e : Exports} (h : e.Filled) : e.isEmpty = true ↔ e.keys = [] := by
  rw [isEmpty, Catalog.isEmpty, List.isEmpty_iff, keys, List.flatMap_eq_nil_iff]
  constructor
  · intro hempty
    simp [hempty]
  · intro hall
    exact List.eq_nil_iff_forall_not_mem.mpr fun g hg => h g hg (hall g hg)

end UiBinding.Exports
