/-
Dangling references: which members have a type, and which of them are reported.

A member becomes a field only if its tag is known.  Then it has a framework type of its own or it
refers to a component, so the type pass finds a type for it.  The pass can report while it writes,
looking up the component of each type and the member at its place once more; both are always there,
so what is reported are the members that dangle, one report for each of them, in their order.

* `DanglingReference.Reports` and `Registry.danglingMembers`: what a report says, and of which
  members it is made;
* `foldl_takeNote_typeNotes`: the type pass in two rounds, with the reports of the second one;
* `isSome_typing?_of_exposed`: after the export pass every field has a type;
* `typing?_eq_dangling_iff`: a reference dangles if its package or its component is not registered;
* `exposed_members_covered`: types and reports cover exactly the members that become fields;
* `Registry.torn` is a registry with dangling references.
-/
import UiBinding.Proofs.Resolution.Annotation
import UiBinding.Proofs.Resolution.Stability
import UiBinding.Report.Format

namespace UiBinding

/-! ### Reports -/

/-- Whether a member is typed as a reference to a component that is not registered. -/
def Member.dangles (m : Member) : Bool := (m.typing?.bind Member.Typing.missing?).isSome

/-- A target is missing exactly if a reference to it dangles. -/
lemma Member.Typing.bind_missing?_eq_some_iff {typing? : Option Member.Typing}
    {target : Component.Key} :
    typing?.bind Member.Typing.missing? = some target ↔ typing? = some (.dangling target) := by
  cases typing? with
  | none => simp
  | some typing => cases typing <;> simp [Member.Typing.missing?]

/-- A dangling reference reports a member of a component: under the key of the component, with the
place where it is declared, the name of the member and the target that it lacks. -/
structure DanglingReference.Reports (d : DanglingReference) (r : Registry) (c : Component)
    (m : Member) : Prop where
  component : d.component = c.key
  location : d.location = r.packageName c.packageId ++ "/" ++ c.fileName
  member : d.member = m.name
  target : m.typing? = some (.dangling d.target)

namespace Registry

/-- The members that dangle, each with its component, in the order of the components and of their
members. -/
def danglingMembers (r : Registry) : List (Component × Member) :=
  r.components.items.flatMap fun c => (c.members.filter Member.dangles).map fun m => (c, m)

/-- The members of a component that dangle are reported, each once and in their order. -/
lemma forall₂_danglingReferencesOf (r : Registry) (c : Component) :
    List.Forall₂ (fun d row => d.Reports r row.1 row.2) (r.danglingReferencesOf c)
      ((c.members.filter Member.dangles).map fun m => (c, m)) := by
  rw [danglingReferencesOf, List.forall₂_map_right_iff]
  generalize c.members = members
  induction members with
  | nil => exact .nil
  | cons m rest ih =>
      rw [List.filterMap_cons, List.filter_cons, Member.dangles]
      cases hmissing : m.typing?.bind Member.Typing.missing? with
      | none => exact ih
      | some target =>
          have htyping := Member.Typing.bind_missing?_eq_some_iff.mp hmissing
          exact .cons ⟨rfl, rfl, rfl, htyping⟩ ih

/-- **One report for each member that dangles**, in the order of the members. -/
lemma forall₂_danglingReferences (r : Registry) :
    List.Forall₂ (fun d row => d.Reports r row.1 row.2) r.danglingReferences r.danglingMembers := by
  rw [danglingReferences, danglingMembers]
  induction r.components.items with
  | nil => exact .nil
  | cons c rest ih =>
      rw [List.flatMap_cons, List.flatMap_cons]
      exact List.rel_append (r.forall₂_danglingReferencesOf c) ih

/-! ### The type pass in two rounds, with its reports -/

/-- The report that a type gives rise to.  The component is looked up under its key, and the member
at its place; where one of them is not found, the key or an empty name stands for it. -/
def reportNote? (r : Registry) (note : TypeNote) : Option DanglingReference :=
  (note.typing?.bind Member.Typing.missing?).map fun target =>
    { component := note.component
      location :=
        match r.component? note.component with
        | some c => Component.label (r.packageName note.component.packageId) c.fileName
        | none => note.component.text
      member := (((r.component? note.component).bind fun c => c.members[note.place]?).map
        Member.name).getD ""
      target := target }

/-- A step of the second round: what a type gives rise to is reported, and the type is written. -/
def takeNote (state : Registry × List DanglingReference) (note : TypeNote) :
    Registry × List DanglingReference :=
  (state.1.writeNote note, state.2 ++ (state.1.reportNote? note).toList)

/-- Writing a type changes no report: files and names stay what they are. -/
lemma reportNote?_writeNote (r : Registry) (written note : TypeNote) :
    (r.writeNote written).reportNote? note = r.reportNote? note := by
  have hfound : (r.writeNote written).component? note.component =
      (r.component? note.component).map (TypeNote.write · written) :=
    Catalog.find?_mapItems (TypeNote.key_write · written) r.components note.component
  have hfile : ∀ c, (TypeNote.write c written).fileName = c.fileName := by
    intro c
    rw [TypeNote.write]
    split <;> rfl
  have hname : ∀ c, ((TypeNote.write c written).members[note.place]?).map Member.name =
      (c.members[note.place]?).map Member.name := by
    intro c
    rw [TypeNote.write]
    split
    · rw [Component.noteType, List.getElem?_modify, Option.map_eq_map, Option.map_map]
      congr 1
      funext m
      rw [Function.comp_apply]
      split <;> rfl
    · rfl
  have hpackage : (r.writeNote written).packageName = r.packageName := rfl
  rw [reportNote?, reportNote?, hfound, hpackage]
  cases r.component? note.component with
  | none => rfl
  | some c => simp only [Option.map_some, Option.bind_some, hfile, hname]

/-- The second round writes all types, and reports what they give rise to in the registry that it
began with. -/
lemma foldl_takeNote (r : Registry) (reports : List DanglingReference) (notes : List TypeNote) :
    notes.foldl takeNote (r, reports) =
      (notes.foldl writeNote r, reports ++ notes.filterMap r.reportNote?) := by
  induction notes generalizing r reports with
  | nil => simp
  | cons note rest ih =>
      have hrest : (r.writeNote note).reportNote? = r.reportNote? := by
        funext other
        exact r.reportNote?_writeNote note other
      rw [List.foldl_cons, takeNote, ih, hrest, List.foldl_cons, List.filterMap_cons]
      cases r.reportNote? note <;> simp

/-- What is found at the places of a list, each with its place, is found in the list. -/
lemma filterMap_mapIdx {α β γ : Type} {l : List α} {f : ℕ → α → β} {g : β → Option γ}
    {h : α → Option γ} (heq : ∀ i a, l[i]? = some a → g (f i a) = h a) :
    (l.mapIdx f).filterMap g = l.filterMap h := by
  calc (l.mapIdx f).filterMap g
      = l.zipIdx.filterMap fun row => g (f row.2 row.1) := by
        rw [List.mapIdx_eq_zipIdx_map, List.filterMap_map]
        rfl
    _ = l.zipIdx.filterMap fun row => h row.1 :=
        List.filterMap_congr fun row hrow =>
          heq row.2 row.1 (List.mk_mem_zipIdx_iff_getElem?.mp hrow)
    _ = (l.zipIdx.map Prod.fst).filterMap h := List.filterMap_map.symm
    _ = l.filterMap h := by rw [List.zipIdx_map_fst]

/-- The reports of a registered component: the component and its members are found again. -/
lemma filterMap_reportNote?_typeNotesOf {r : Registry} {c : Component}
    (hc : c ∈ r.components.items) :
    (r.typeNotesOf c).filterMap r.reportNote? =
      r.resolveTypes.danglingReferencesOf (r.resolveComponent c) := by
  have hfound : r.component? c.key = some c := component?_eq_some_iff.mpr ⟨hc, rfl⟩
  rw [danglingReferencesOf, resolveComponent, List.filterMap_map, typeNotesOf]
  refine filterMap_mapIdx fun place m hm => ?_
  rw [reportNote?, hfound, Option.bind_some, hm]
  rfl

/-- **The type pass in two rounds, with its reports**: what is reported while the types are written
one by one are the dangling references of the typed registry. -/
lemma foldl_takeNote_typeNotes (r : Registry) :
    r.typeNotes.foldl takeNote (r, []) = (r.resolveTypes, r.resolveTypes.danglingReferences) := by
  have hitems : r.resolveTypes.components.items = r.components.items.map r.resolveComponent := rfl
  rw [foldl_takeNote, foldl_writeNote_typeNotes, List.nil_append, typeNotes, danglingReferences,
    List.filterMap_flatMap, hitems, List.flatMap_map]
  congr 1
  exact List.flatMap_congr fun c hc => filterMap_reportNote?_typeNotesOf hc

/-! ### Types -/

/-- Every member with a known tag has a type: one of its own, or that of what it refers to. -/
lemma isSome_typing? (r : Registry) (owner : String) {m : Member}
    (h : m.kind.isBindable = true) : (r.typing? owner m).isSome = true := by
  rw [typing?]
  cases hbase : m.kind.baseType? with
  | some baseType => rfl
  | none =>
      have hkind : m.kind = .component :=
        (DisplayKind.baseType?_eq_none_iff.mp hbase).resolve_right (by simp [h])
      rw [Option.isSome_map, Member.target?_isSome, decide_eq_true hkind]

/-- A reference leads nowhere exactly if its package or its component is not registered. -/
lemma target?_eq_none_iff {r : Registry} {key : Component.Key} :
    r.target? key = none ↔ key.packageId ∉ r.packages.keys ∨ key ∉ r.components.keys := by
  rw [target?, ← Catalog.find?_eq_none_iff, ← Catalog.find?_eq_none_iff]
  change (r.packages.find? key.packageId).bind _ = none ↔ _
  cases r.packages.find? key.packageId <;> simp [component?]

section

variable {r : Registry} {requests : ExportRequests} {config : Config} {c : Component} {m : Member}

/-- After the export pass every member that becomes a field has a known tag, whatever types are
written on it. -/
lemma isBindable_of_exposed
    (hc : c ∈ (r.markExports requests config).registry.resolveTypes.components.items)
    (hm : m ∈ c.members) (hexposed : m.exposed = true) : m.kind.isBindable = true := by
  obtain ⟨marked, hmarked, rfl⟩ := List.mem_map.mp hc
  obtain ⟨first, -, rfl⟩ := List.mem_map.mp hmarked
  obtain ⟨other, hother, rfl⟩ := List.mem_map.mp hm
  obtain ⟨authored, -, rfl⟩ := List.mem_map.mp hother
  have hdecided : isExposedMember config.ignoreDefaultNames authored.name authored.kind = true :=
    hexposed
  rw [isExposedMember, Bool.and_eq_true, Bool.and_eq_true] at hdecided
  exact hdecided.1.2

/-- After the export pass a member has a type exactly if it becomes a field. -/
lemma isSome_typing?_of_exposed
    (hc : c ∈ (r.markExports requests config).registry.resolveTypes.components.items)
    (hm : m ∈ c.members) : m.typing?.isSome = m.exposed := by
  rw [typing?_of_typed (resolveTypes_resolveTypes _) hc hm]
  cases hexposed : m.exposed with
  | false => rfl
  | true => exact isSome_typing? _ _ (isBindable_of_exposed hc hm hexposed)

/-- In a typed registry a reference that becomes a field dangles exactly if its package or its
component is not registered. -/
lemma typing?_eq_dangling_iff (htyped : r.resolveTypes = r) (hc : c ∈ r.components.items)
    (hm : m ∈ c.members) (hexposed : m.exposed = true) {target missing : Component.Key}
    (htarget : m.target? c.packageId = some target) :
    m.typing? = some (.dangling missing) ↔
      missing = target ∧ (target.packageId ∉ r.packages.keys ∨ target ∉ r.components.keys) := by
  rw [← Member.Typing.bind_missing?_eq_some_iff, typing?_of_typed htyped hc hm, if_pos hexposed,
    bind_missing?_typing?, htarget, ← target?_eq_none_iff, Option.filter_eq_some_iff,
    Option.some_inj, Option.isNone_iff_eq_none]
  constructor
  · rintro ⟨rfl, hnone⟩
    exact ⟨rfl, hnone⟩
  · rintro ⟨rfl, hnone⟩
    exact ⟨rfl, hnone⟩

end

end Registry

/-! ### Reported members -/

/-- A field that may be left out is there with its value. -/
lemma Json.mem_optionalField_iff {name : String} {value : Option String} {field : String × Json} :
    field ∈ optionalField name value ↔ ∃ s, value = some s ∧ (name, .text s) = field := by
  cases value <;> simp [optionalField, eq_comm]

namespace Report

/-- A member is marked as dangling exactly if it has a type without a name. -/
lemma Member.dangling_iff {m : UiBinding.Member} (h : m.typing?.isSome = true) :
    (Member.of m).dangling = true ↔ (Member.of m).typeName? = none := by
  obtain ⟨typing, htyping⟩ := Option.isSome_iff_exists.mp h
  simp [Member.of, htyping]

/-- The fields that a member is written with: a mark for dangling, and a type name if there is
one. -/
lemma Member.exists_fields (m : Report.Member) : ∃ fields, m.toJson = .record fields ∧
    (("dangling", .truth true) ∈ fields ↔ m.dangling = true) ∧
    ("type_name" ∈ fields.map Prod.fst ↔ m.typeName? ≠ none) := by
  refine ⟨_, rfl, ?_, ?_⟩
  · simp [Json.mem_optionalField_iff]
  · simp [Json.mem_optionalField_iff, Option.ne_none_iff_exists']

end Report

/-! ### Members that become fields -/

namespace Registry

/-- **Types and reports cover exactly the members that become fields.**  After the export pass and
the type pass, which may be made in two rounds with the reports written in the second one:
a member has a type exactly if it becomes a field; each member that dangles has one report, in the
order of the members; a reference that becomes a field dangles exactly if its package or its
component is not registered; and a member that is listed is marked as dangling exactly if no type
name is written for it. -/
theorem exposed_members_covered (r : Registry) (requests : ExportRequests) (config : Config) :
    let marked := (r.markExports requests config).registry
    let typed := marked.resolveTypes
    marked.typeNotes.foldl takeNote (marked, []) = (typed, typed.danglingReferences) ∧
    (∀ c ∈ typed.components.items, ∀ m ∈ c.members, m.typing?.isSome = m.exposed) ∧
    List.Forall₂ (fun d row => d.Reports typed row.1 row.2) typed.danglingReferences
      typed.danglingMembers ∧
    (∀ c ∈ typed.components.items, ∀ m ∈ c.members, m.exposed = true → m.kind = .component →
      ∃ target, m.target? c.packageId = some target ∧
        ∀ missing, m.typing? = some (.dangling missing) ↔ missing = target ∧
          (target.packageId ∉ r.packages.keys ∨ target ∉ r.components.keys)) ∧
    ∀ c ∈ typed.components.items, ∀ row ∈ (Report.Component.of c).members,
      ∃ fields, row.toJson = .record fields ∧
        (("dangling", .truth true) ∈ fields ↔ "type_name" ∉ fields.map Prod.fst) := by
  intro marked typed
  have htyped : typed.resolveTypes = typed := resolveTypes_resolveTypes marked
  have hkeys : typed.components.keys = r.components.keys :=
    (Catalog.keys_mapItems marked.resolveComponent (fun _ => rfl) marked.components).trans
      (Catalog.keys_mapItems _ (Component.key_decideExport requests config) r.components)
  refine ⟨marked.foldl_takeNote_typeNotes, fun c hc m hm => isSome_typing?_of_exposed hc hm,
    typed.forall₂_danglingReferences, fun c hc m hm hexposed hkind => ?_, fun c hc row hrow => ?_⟩
  · have htarget : (m.target? c.packageId).isSome = true := by
      rw [Member.target?_isSome, decide_eq_true hkind]
    obtain ⟨target, htarget⟩ := Option.isSome_iff_exists.mp htarget
    refine ⟨target, htarget, fun missing => ?_⟩
    rw [typing?_eq_dangling_iff htyped hc hm hexposed htarget, hkeys]
    rfl
  · obtain ⟨m, hm, rfl⟩ := List.mem_map.mp hrow
    obtain ⟨hmem, hexposed⟩ := List.mem_filter.mp hm
    have htype : m.typing?.isSome = true :=
      (isSome_typing?_of_exposed hc hmem).trans hexposed
    obtain ⟨fields, hfields, hdangling, hname⟩ := Report.Member.exists_fields (Report.Member.of m)
    refine ⟨fields, hfields, ?_⟩
    rw [hdangling, hname, not_not]
    exact Report.Member.dangling_iff htype

/-- A component with two references of one name that lead nowhere, one without a name, and one to
itself. -/
def torn : Registry where
  packages := .ofList [⟨"p", "Main", ⟨"Main"⟩, .empty⟩]
  components := .ofList
    [⟨"p", "a", "Row.xml", .component, false, [],
      [reference "row" "x", reference "row" "y", reference "" "x", reference "own" "a"], false,
      false, none⟩]
  warnings := []
where
  /-- A reference to a component of the same package. -/
  reference (name src : String) : Member :=
    ⟨.mk "component" (.ofList [("name", name), ("src", src)]) [], false, none⟩

/-- The two references of one name are reported one after the other, each with its own target, and
the one without a name has no type and is not reported. -/
theorem exposed_members_covered_torn :
    let typed := (torn.markExports .empty {}).registry.resolveTypes
    typed.danglingReferences =
      [⟨⟨"p", "a"⟩, "Main/Row.xml", "row", ⟨"p", "x"⟩⟩,
        ⟨⟨"p", "a"⟩, "Main/Row.xml", "row", ⟨"p", "y"⟩⟩] ∧
    List.Forall₂ (fun d row => d.Reports typed row.1 row.2) typed.danglingReferences
      typed.danglingMembers ∧
    typed.components.items.map (fun c => c.members.map fun m => (m.exposed, m.typing?.isSome)) =
      [[(true, true), (true, true), (false, false), (true, true)]] ∧
    ∀ c ∈ typed.components.items, ∀ m ∈ c.members, m.typing?.isSome = m.exposed := by
  intro typed
  obtain ⟨-, htypes, hreports, -⟩ := exposed_members_covered torn .empty {}
  exact ⟨by decide +kernel, hreports, by decide +kernel, htypes⟩

end Registry

end UiBinding
