/-
Annotation: what a resolution leaves as it was.

The passes write notes on components and on their parts.  The type pass can be made in two rounds:
the types of all members are collected first, each with the key of its component and its place
there, and then they are written one by one.  Keys are distinct, so every type comes to the member
that it was found for.

* `Component.authored` is a component without the notes, and `Component.Annotates` says of two
  components that they differ in notes only;
* `authored_settle`: settling a component keeps what was authored;
* `foldl_writeNote_typeNotes`: the type pass in two rounds;
* `resolve_annotates`: a resolution only annotates.
-/
import UiBinding.Proofs.Resolution.Settled

namespace UiBinding

/-! ### What was authored -/

/-- A member without the notes on it. -/
def Member.authored (m : Member) : Member := { m with exposed := false, typing? := none }

/-- A controller without the note on it. -/
def Controller.authored (k : Controller) : Controller := { k with exposed := false }

/-- A component without the notes on it and on its parts. -/
def Component.authored (c : Component) : Component :=
  { c with
    controllers := c.controllers.map Controller.authored
    members := c.members.map Member.authored
    exported := false
    reachable := false
    className? := none }

/-- Two components differ in notes only. -/
structure Component.Annotates (c d : Component) : Prop where
  authored : d.authored = c.authored
  key : d.key = c.key
  fileName : d.fileName = c.fileName
  url : d.url = c.url
  kind : d.kind = c.kind
  declaredExported : d.declaredExported = c.declaredExported
  displayList : d.displayList = c.displayList
  /-- The same members in the same order. -/
  members : d.members.map (fun m => (m.name, m.kind, m.node)) =
    c.members.map fun m => (m.name, m.kind, m.node)
  /-- The same controllers in the same order. -/
  controllers : d.controllers.map (fun k => (k.name, k.pages, k.node)) =
    c.controllers.map fun k => (k.name, k.pages, k.node)

namespace Component

variable {c d : Component}

/-- If the same was authored, the same can be read off the nodes of the members. -/
lemma map_node_members (h : d.authored = c.authored) {α : Type} (f : Xml.Element → α) :
    d.members.map (fun m => f m.node) = c.members.map fun m => f m.node := by
  have hnodes := congrArg (fun e : Component => e.members.map fun m => f m.node) h
  rwa [authored, authored, List.map_map, List.map_map] at hnodes

/-- If the same was authored, the same can be read off the nodes of the controllers. -/
lemma map_node_controllers (h : d.authored = c.authored) {α : Type} (f : Xml.Element → α) :
    d.controllers.map (fun k => f k.node) = c.controllers.map fun k => f k.node := by
  have hnodes := congrArg (fun e : Component => e.controllers.map fun k => f k.node) h
  rwa [authored, authored, List.map_map, List.map_map] at hnodes

/-- If the same was authored, two components differ in notes only. -/
lemma annotates_of_authored_eq (h : d.authored = c.authored) : c.Annotates d := by
  have hkept {α : Type} (f : Component → α) : f d.authored = f c.authored := congrArg f h
  constructor
  case authored => exact h
  case key => exact hkept key
  case fileName => exact hkept fileName
  case url => exact hkept url
  case kind => exact hkept kind
  case declaredExported => exact hkept declaredExported
  case displayList => exact map_node_members h fun node => node
  case members =>
    exact map_node_members h fun node =>
      (node.attributeOrEmpty "name", DisplayKind.ofElement node, node)
  case controllers =>
    exact map_node_controllers h fun node =>
      (node.attributeOrEmpty "name", (Controller.mk node false).pages, node)

end Component

namespace Assets

variable (a : Assets) (config : Config)

/-- Settling a component keeps what was authored. -/
lemma authored_settle (c : Component) : (a.settle config c).authored = c.authored := by
  have hmembers : (a.settle config c).members.map Member.authored =
      c.members.map Member.authored := by
    rw [members_settle, List.map_map]
    rfl
  have hcontrollers : (a.settle config c).controllers.map Controller.authored =
      c.controllers.map Controller.authored := by
    rw [controllers_settle, List.map_map]
    rfl
  rw [settle_eq]
  simp only [Component.authored, hmembers, hcontrollers]

/-- A resolution leaves the packages and the warnings as they are, and the components under their
keys. -/
lemma frame_resolve :
    (a.resolve config).registry.packages = a.registry.packages ∧
      (a.resolve config).registry.warnings = a.registry.warnings ∧
      (a.resolve config).registry.components.keys = a.registry.components.keys := by
  rw [registry_resolve_eq]
  exact ⟨rfl, rfl, Catalog.keys_mapItems _ (a.key_settle config) _⟩

end Assets

/-! ### The type pass in two rounds -/

/-- The type found for a member, with the key of its component and its place there. -/
structure TypeNote where
  component : Component.Key
  place : ℕ
  typing? : Option Member.Typing

/-- Writes a type on the member at a place. -/
def Component.noteType (place : ℕ) (typing? : Option Member.Typing) (c : Component) : Component :=
  { c with members := c.members.modify place fun m => { m with typing? := typing? } }

namespace Registry

/-- The types found for the members of a component; a member that does not become a field has
none. -/
def typeNotesOf (r : Registry) (c : Component) : List TypeNote :=
  c.members.mapIdx fun place m =>
    ⟨c.key, place, if m.exposed then r.typing? c.packageId m else none⟩

/-- The types found for all members, in the order of the components. -/
def typeNotes (r : Registry) : List TypeNote := r.components.items.flatMap r.typeNotesOf

/-- Writes a type on the member that it was found for, looking up the component under its key. -/
def writeNote (r : Registry) (note : TypeNote) : Registry :=
  r.modifyComponent note.component (Component.noteType note.place note.typing?) fun _ => rfl

end Registry

namespace TypeNote

/-- What writing a note does to a component: something only if the key is its own. -/
def write (c : Component) (note : TypeNote) : Component :=
  if c.key = note.component then c.noteType note.place note.typing? else c

lemma key_write (c : Component) (note : TypeNote) : (write c note).key = c.key := by
  rw [write]
  split <;> rfl

lemma key_foldl_write (notes : List TypeNote) (c : Component) :
    (notes.foldl write c).key = c.key := by
  induction notes generalizing c with
  | nil => rfl
  | cons note rest ih => rw [List.foldl_cons, ih, key_write]

/-- Notes for other components do nothing. -/
lemma foldl_write_of_ne {notes : List TypeNote} {c : Component}
    (h : ∀ note ∈ notes, note.component ≠ c.key) : notes.foldl write c = c := by
  induction notes with
  | nil => rfl
  | cons note rest ih =>
      obtain ⟨hnote, hrest⟩ := List.forall_mem_cons.mp h
      rw [List.foldl_cons, write, if_neg (Ne.symm hnote), ih hrest]

/-- Notes for the members behind some others, written from front to back. -/
lemma foldl_write_mapIdx (c : Component) (found : Member → Option Member.Typing)
    (done todo : List Member) :
    (todo.mapIdx fun i m => ⟨c.key, done.length + i, found m⟩).foldl write
        { c with members := done ++ todo } =
      { c with members := done ++ todo.map fun m => { m with typing? := found m } } := by
  induction todo generalizing done with
  | nil => rfl
  | cons m rest ih =>
      have hwrite : write { c with members := done ++ m :: rest } ⟨c.key, done.length, found m⟩ =
          { c with members := (done ++ [{ m with typing? := found m }]) ++ rest } := by
        have hown : write { c with members := done ++ m :: rest } ⟨c.key, done.length, found m⟩ =
            Component.noteType done.length (found m) { c with members := done ++ m :: rest } :=
          if_pos rfl
        rw [hown, Component.noteType]
        simp [List.modify_eq_take_drop]
      have hplace : ∀ i, done.length + (i + 1) =
          (done ++ [{ m with typing? := found m }]).length + i := by
        intro i
        rw [List.length_append, List.length_singleton]
        omega
      rw [List.mapIdx_cons, List.foldl_cons, Nat.add_zero, hwrite]
      simp only [hplace]
      rw [ih]
      simp

end TypeNote

namespace Registry

/-- Writing the notes of a component types its members. -/
lemma foldl_write_typeNotesOf (r : Registry) (c : Component) :
    (r.typeNotesOf c).foldl TypeNote.write c = r.resolveComponent c := by
  have hnotes := TypeNote.foldl_write_mapIdx c
    (fun m => if m.exposed then r.typing? c.packageId m else none) [] c.members
  simp only [List.length_nil, Nat.zero_add, List.nil_append] at hnotes
  exact hnotes

/-- Writing notes one by one is one change of every component. -/
lemma foldl_writeNote (r : Registry) (notes : List TypeNote) :
    notes.foldl writeNote r = r.mapComponents (fun c => notes.foldl TypeNote.write c)
      (TypeNote.key_foldl_write notes) := by
  induction notes generalizing r with
  | nil => exact (mapComponents_eq_self fun _ _ => rfl).symm
  | cons note rest ih =>
      have hfirst : r.writeNote note =
          r.mapComponents (TypeNote.write · note) (TypeNote.key_write · note) := rfl
      rw [List.foldl_cons, ih, hfirst, mapComponents_mapComponents]
      rfl

/-- **The type pass in two rounds**: collecting the types of all members and writing them one by one
comes to typing every component where it stands. -/
lemma foldl_writeNote_typeNotes (r : Registry) :
    r.typeNotes.foldl writeNote r = r.resolveTypes := by
  rw [foldl_writeNote]
  refine mapComponents_congr fun c hc => ?_
  obtain ⟨before, after, hitems, hbefore, hafter⟩ :=
    Catalog.exists_split_of_mem r.components.distinct hc
  -- the notes of the other components are for other keys
  have hother : ∀ others : List Component, c.key ∉ others.map Component.key →
      ∀ note ∈ others.flatMap r.typeNotesOf, note.component ≠ c.key := by
    intro others hnot note hnote heq
    obtain ⟨d, hd, hnote⟩ := List.mem_flatMap.mp hnote
    obtain ⟨place, hplace, rfl⟩ := List.mem_mapIdx.mp hnote
    exact hnot (heq ▸ List.mem_map_of_mem hd)
  have hlater : ∀ note ∈ after.flatMap r.typeNotesOf,
      note.component ≠ (r.resolveComponent c).key := hother after hafter
  rw [typeNotes, hitems, List.flatMap_append, List.flatMap_cons, List.foldl_append,
    List.foldl_append, TypeNote.foldl_write_of_ne (hother before hbefore),
    foldl_write_typeNotesOf, TypeNote.foldl_write_of_ne hlater]

end Registry

/-! ### Resolution -/

namespace Assets

variable (a : Assets) (config : Config)

/-- **A resolution only annotates**: the packages, the warnings and the keys are left as they are,
and each component, in its place, differs in notes only.  That holds also if the type pass is made
in two rounds, as this comes to the same. -/
theorem resolve_annotates :
    (a.resolve config).registry.packages = a.registry.packages ∧
    (a.resolve config).registry.warnings = a.registry.warnings ∧
    (a.resolve config).registry.components.keys = a.registry.components.keys ∧
    List.Forall₂ Component.Annotates a.registry.components.items
      (a.resolve config).registry.components.items ∧
    ∀ r : Registry, r.typeNotes.foldl Registry.writeNote r = r.resolveTypes := by
  obtain ⟨hpackages, hwarnings, hkeys⟩ := a.frame_resolve config
  refine ⟨hpackages, hwarnings, hkeys, ?_, Registry.foldl_writeNote_typeNotes⟩
  rw [registry_resolve_eq, Registry.items_mapComponents, List.forall₂_map_right_iff,
    List.forall₂_same]
  exact fun c _ => Component.annotates_of_authored_eq (a.authored_settle config c)

end Assets

end UiBinding
