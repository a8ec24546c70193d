/-
The registry: every package and component that was read, and the problems met on the way.

A package identifier is registered once and for all.  A component takes the place of one with the
same key.

* `insertPackage` refuses a known identifier, and only that (`insertPackage_eq_error_iff`).
-/
import UiBinding.Component.Basic
import UiBinding.Diagnostic
import UiBinding.Package.Basic

namespace UiBinding

/-- Addresses of components that have to be exported although no manifest says so. -/
abbrev ExportRequests := Catalog (id : String → String)

/-- Every package and component, in the order of registration. -/
structure Registry where
  packages : Catalog Package.id
  components : Catalog Component.key
  /-- The problems that did not end the reading. -/
  warnings : List Diagnostic

namespace Registry

/-- The registry without packages. -/
def empty : Registry := ⟨.empty, .empty, []⟩

instance : Inhabited Registry := ⟨empty⟩

/-- The package with an identifier. -/
def package? (r : Registry) (id : String) : Option Package := r.packages.find? id

/-- The component with a key. -/
def component? (r : Registry) (key : Component.Key) : Option Component := r.components.find? key

/-- The name of a package; an unknown package is called by its identifier. -/
def packageName (r : Registry) (id : String) : String := ((r.package? id).map Package.name).getD id

/-- Registers a package, unless its identifier is taken. -/
def insertPackage (r : Registry) (p : Package) : Except Diagnostic Registry :=
  match r.package? p.id with
  | some other => .error (.duplicatePackageId p.id other.path.text p.path.text)
  | none => .ok { r with packages := r.packages.insert p }

/-- Registers a component under its key. -/
def insertComponent (r : Registry) (c : Component) : Registry :=
  { r with components := r.components.insert c }

/-- Notes a problem. -/
def warn (r : Registry) (problem : Diagnostic) : Registry :=
  { r with warnings := r.warnings ++ [problem] }

/-- Changes every component in a way that keeps its key. -/
def mapComponents (r : Registry) (f : Component → Component) (keeps : ∀ c, (f c).key = c.key) :
    Registry :=
  { r with components := r.components.mapItems f keeps }

/-- Changes the component with a key in a way that keeps the key. -/
def modifyComponent (r : Registry) (key : Component.Key) (f : Component → Component)
    (keeps : ∀ c, (f c).key = c.key) : Registry :=
  { r with components := r.components.modify key f keeps }

/-! ### Laws -/

/-- A package is refused exactly when its identifier is taken. -/
theorem insertPackage_eq_error_iff {r : Registry} {p : Package} :
    (∃ d, r.insertPackage p = .error d) ↔ p.id ∈ r.packages.keys := by
  unfold insertPackage
  split
  · next other h =>
    have hmem : p.id ∈ r.packages.keys := by
      rw [← Catalog.contains_iff, Catalog.contains]
      exact Option.isSome_iff_exists.mpr ⟨other, h⟩
    exact ⟨fun _ => hmem, fun _ => ⟨_, rfl⟩⟩
  · next h => simpa using Catalog.find?_eq_none_iff.mp h

end Registry

end UiBinding
