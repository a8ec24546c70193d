/-
Sections: the children of a component file, taken one after the other.

A component can be read in one pass over the children of the root.  What has been taken so far is
the last display list, the controllers and the addresses asked for.  A child adds to one of the
three at most, and which one is decided by its name.  So a child with any other name changes
nothing, and children with different names can change places.

* `Sections` and `Sections.take`: what has been taken, and how a child adds to it;
* `take_of_isIgnored` and `take_comm`: one child, and two;
* `ofElement_eq_ofSections`: the pass comes to reading each section on its own;
* `reading_by_sections`: what an ignored child does to a reading, and the order of the others.
-/
import Mathlib.Tactic
import UiBinding.Component.Reading

namespace UiBinding.Component

/-- What has been taken from the children of a component file. -/
@[ext]
structure Sections where
  displayNodes : List Xml.Element
  controllers : List Controller
  /-- The addresses of the components that have to be exported. -/
  requests : List String

namespace Sections

/-- Nothing has been taken. -/
def empty : Sections := ⟨[], [], []⟩

/-- Takes what a child says for a component of a kind. -/
def take (packageId : String) (kind : Kind) (s : Sections) (child : Xml.Element) : Sections :=
  if child.name = "displayList" then { s with displayNodes := child.children }
  else if child.name = "controller" then { s with controllers := s.controllers ++ [⟨child, false⟩] }
  else if child.name = "ComboBox" ∧ kind = .comboBox then
    match child.nonEmptyAttribute? "dropdown" with
    | some value => { s with requests := s.requests ++ [dropdownUrl packageId value] }
    | none => s
  else s

/-- Takes what the children of a component file say, one after the other. -/
def takeAll (packageId : String) (kind : Kind) (s : Sections) (children : List Xml.Element) :
    Sections :=
  children.foldl (take packageId kind) s

end Sections

/-- A child that no part of a component is read from. -/
def IsIgnored (kind : Kind) (child : Xml.Element) : Prop :=
  child.name ≠ "displayList" ∧ child.name ≠ "controller" ∧
    (child.name = "ComboBox" → kind ≠ .comboBox)

/-! ### One child -/

namespace Sections

variable (packageId : String) (kind : Kind) (s : Sections) (child : Xml.Element)

/-- The addresses that a child asks for. -/
def requestsOf : List String :=
  if child.name = "ComboBox" ∧ kind = .comboBox then
    ((child.nonEmptyAttribute? "dropdown").map (dropdownUrl packageId)).toList
  else []

@[simp]
lemma displayNodes_take : (s.take packageId kind child).displayNodes =
    if child.name = "displayList" then child.children else s.displayNodes := by
  rw [take]
  split_ifs
  · rfl
  · rfl
  · split <;> rfl
  · rfl

@[simp]
lemma controllers_take : (s.take packageId kind child).controllers =
    s.controllers ++ if child.name = "controller" then [⟨child, false⟩] else [] := by
  rw [take]
  split_ifs with hlist hcontroller
  · simp [hlist] at hcontroller
  · simp
  · rfl
  · split <;> simp
  · simp

@[simp]
lemma requests_take : (s.take packageId kind child).requests =
    s.requests ++ requestsOf packageId kind child := by
  rw [take, requestsOf]
  split_ifs with hlist hcombo hcontroller hcombo hcombo
  · simp [hlist] at hcombo
  · simp
  · simp [hcontroller] at hcombo
  · simp
  · split <;> simp [*]
  · simp

variable {packageId kind child}

/-- An ignored child adds nothing. -/
lemma take_of_isIgnored (h : IsIgnored kind child) : s.take packageId kind child = s := by
  obtain ⟨hlist, hcontroller, hcombo⟩ := h
  rw [take, if_neg hlist, if_neg hcontroller, if_neg fun hboth => hcombo hboth.1 hboth.2]

/-- **Children with different names** can change places. -/
lemma take_comm {first second : Xml.Element} (h : first.name ≠ second.name) :
    (s.take packageId kind first).take packageId kind second =
      (s.take packageId kind second).take packageId kind first := by
  -- in each of the three parts one of the two children has nothing to say
  have hone : ∀ name, first.name ≠ name ∨ second.name ≠ name := fun name => by
    by_contra hboth
    push Not at hboth
    exact h (hboth.1.trans hboth.2.symm)
  ext1
  case displayNodes =>
    rcases hone "displayList" with hname | hname <;> simp [hname]
  case controllers =>
    rcases hone "controller" with hname | hname <;> simp [hname]
  case requests =>
    rcases hone "ComboBox" with hname | hname <;> simp [requestsOf, hname]

/-! ### All children -/

lemma takeAll_append (children later : List Xml.Element) :
    s.takeAll packageId kind (children ++ later) =
      (s.takeAll packageId kind children).takeAll packageId kind later :=
  List.foldl_append

lemma takeAll_cons (later : List Xml.Element) :
    s.takeAll packageId kind (child :: later) =
      (s.take packageId kind child).takeAll packageId kind later := rfl

variable (children : List Xml.Element)

/-- Of several display lists the last one is left. -/
lemma displayNodes_takeAll : (s.takeAll packageId kind children).displayNodes =
    (((children.filter fun e => e.name = "displayList").getLast?).map
      Xml.Element.children).getD s.displayNodes := by
  -- by induction from the back, where the last display list is
  induction children using List.reverseRecOn with
  | nil => rfl
  | append_singleton front child ih =>
      rw [takeAll_append, takeAll_cons, List.filter_append]
      by_cases hname : child.name = "displayList"
      · simp [takeAll, hname]
      · simpa [takeAll, hname] using ih

lemma controllers_takeAll : (s.takeAll packageId kind children).controllers =
    s.controllers ++ (children.filter fun e => e.name = "controller").map fun e => ⟨e, false⟩ := by
  induction children generalizing s with
  | nil => simp [takeAll]
  | cons child rest ih =>
      rw [takeAll_cons, ih, controllers_take, List.append_assoc]
      by_cases hname : child.name = "controller" <;> simp [hname]

lemma requests_takeAll : (s.takeAll packageId kind children).requests =
    s.requests ++ children.flatMap (requestsOf packageId kind) := by
  induction children generalizing s with
  | nil => simp [takeAll]
  | cons child rest ih => rw [takeAll_cons, ih, requests_take, List.append_assoc, List.flatMap_cons]

/-- The addresses asked for by the combo boxes among children, if the kind is that of a combo
box. -/
lemma flatMap_requestsOf : children.flatMap (requestsOf packageId kind) =
    if kind = .comboBox then
      (children.filter fun e => e.name = "ComboBox").filterMap fun e =>
        (e.nonEmptyAttribute? "dropdown").map (dropdownUrl packageId)
    else [] := by
  induction children with
  | nil => simp
  | cons child rest ih =>
      rw [List.flatMap_cons, ih, requestsOf]
      by_cases hkind : kind = .comboBox
      · by_cases hname : child.name = "ComboBox"
        · cases hdropdown : child.nonEmptyAttribute? "dropdown" <;> simp [hkind, hname, hdropdown]
        · simp [hkind, hname]
      · simp [hkind]

end Sections

/-! ### Readings -/

/-- The reading that is made of sections.  The kind and what is wrong with it are told by the root
itself. -/
def Reading.ofSections (package : Package) (entry : Package.Entry) (root : Xml.Element)
    (s : Sections) : Reading where
  component :=
    { packageId := package.id
      id := entry.id
      fileName := entry.fileName
      kind := kindOf root
      declaredExported := entry.exported
      controllers := s.controllers
      members := s.displayNodes.map fun node => ⟨node, false, none⟩ }
  requests := s.requests
  problems := kindProblems (label package.name entry.fileName) root ++
    (s.displayNodes.map fun node => Member.mk node false none).filterMap
      (memberProblem? (label package.name entry.fileName))

/-- **The pass over the children** comes to reading each section on its own. -/
lemma Reading.ofElement_eq_ofSections (package : Package) (entry : Package.Entry)
    (root : Xml.Element) : ofElement package entry root = ofSections package entry root
      (Sections.empty.takeAll package.id (kindOf root) root.children) := by
  have hnodes : (Sections.empty.takeAll package.id (kindOf root) root.children).displayNodes =
      displayNodes root := by
    rw [Sections.displayNodes_takeAll, displayNodes, childrenNamed]
    cases (root.children.filter fun e => e.name = "displayList").getLast? <;> rfl
  have hcontrollers : (Sections.empty.takeAll package.id (kindOf root) root.children).controllers =
      (childrenNamed "controller" root).map fun e => ⟨e, false⟩ :=
    Sections.controllers_takeAll _ _
  have hrequests : (Sections.empty.takeAll package.id (kindOf root) root.children).requests =
      dropdownUrls package.id root := by
    rw [Sections.requests_takeAll, Sections.flatMap_requestsOf]
    rfl
  rw [ofSections, hnodes, hcontrollers, hrequests, ofElement]

/-- **Sections are read by name.**  The children of the root are `before` and `after`.  An ignored
child between them changes nothing in the component, in what it asks for and in the problems; two
children with different names can change places; and the dropdown list of a combo box is asked for
wherever its element stands.  All of this holds of reading the children in one pass, too, as this
comes to the same. -/
theorem reading_by_sections (package : Package) (entry : Package.Entry) (name : String)
    (attributes : Xml.Attributes) (before after : List Xml.Element) :
    let read := fun children => Reading.ofElement package entry (.mk name attributes children)
    let kind := (read (before ++ after)).component.kind
    (∀ child, IsIgnored kind child → read (before ++ child :: after) = read (before ++ after)) ∧
    (∀ first second, first.name ≠ second.name →
      read (before ++ first :: second :: after) = read (before ++ second :: first :: after)) ∧
    (∀ child value, kind = .comboBox → child.name = "ComboBox" →
      child.nonEmptyAttribute? "dropdown" = some value →
        dropdownUrl package.id value ∈ (read (before ++ child :: after)).requests) ∧
    ∀ children, read children = Reading.ofSections package entry (.mk name attributes children)
      (Sections.empty.takeAll package.id kind children) := by
  intro read kind
  have hread : ∀ children, read children =
      Reading.ofSections package entry (.mk name attributes children)
        (Sections.empty.takeAll package.id kind children) :=
    fun children => Reading.ofElement_eq_ofSections package entry _
  -- what is not taken from the children is told by the attributes of the root
  have hsections : ∀ children children' : List Xml.Element,
      Sections.empty.takeAll package.id kind children =
        Sections.empty.takeAll package.id kind children' → read children = read children' := by
    intro children children' h
    rw [hread, hread, h]
    rfl
  refine ⟨fun child h => hsections _ _ ?_, fun first second h => hsections _ _ ?_, ?_, hread⟩
  · rw [Sections.takeAll_append, Sections.takeAll_cons, Sections.take_of_isIgnored _ h,
      Sections.takeAll_append]
  · simp only [Sections.takeAll_append, Sections.takeAll_cons]
    rw [Sections.take_comm _ h]
  · intro child value hkind hname hvalue
    have hasked : dropdownUrl package.id value ∈
        (before ++ child :: after).flatMap (Sections.requestsOf package.id kind) := by
      refine List.mem_flatMap.mpr ⟨child, by simp, ?_⟩
      rw [Sections.requestsOf, if_pos ⟨hname, hkind⟩, hvalue]
      simp
    rw [hread, Reading.ofSections, Sections.requests_takeAll]
    exact List.mem_append_right _ hasked

/-- A combo box with a display list.  An element that has a display list inside stands between them,
or they stand the other way round; the dropdown list is asked for in any case. -/
theorem reading_by_sections_nested :
    let nodes : Xml.Element := .mk "displayList" .empty [.mk "video" .empty []]
    let relation : Xml.Element := .mk "relation" .empty [.mk "displayList" .empty []]
    let combo : Xml.Element := .mk "ComboBox" (.ofList [("dropdown", "k")]) []
    let read := fun children => Reading.ofElement (.bare "p" "A" ⟨"A"⟩) ⟨"a", "M", ⟨"A/M"⟩, false⟩
      (.mk "component" (.ofList [("extention", "ComboBox")]) children)
    ((read [nodes, combo]).component.kind = .comboBox ∧ IsIgnored .comboBox relation ∧
      nodes.name ≠ combo.name ∧ combo.name = "ComboBox" ∧
      combo.nonEmptyAttribute? "dropdown" = some "k") ∧
    read [nodes, relation, combo] = read [nodes, combo] ∧
    read [nodes, combo] = read [combo, nodes] ∧
    dropdownUrl "p" "k" ∈ (read [nodes, combo]).requests := by
  intro nodes relation combo read
  have hkind : (read [nodes, combo]).component.kind = .comboBox := by decide +kernel
  have hignored : IsIgnored .comboBox relation := ⟨by decide, by decide, by decide⟩
  have hnames : nodes.name ≠ combo.name := by decide
  have hdropdown : combo.nonEmptyAttribute? "dropdown" = some "k" := by decide +kernel
  have hsections := reading_by_sections (.bare "p" "A" ⟨"A"⟩) ⟨"a", "M", ⟨"A/M"⟩, false⟩ "component"
    (.ofList [("extention", "ComboBox")])
  obtain ⟨hinsert, -⟩ := hsections [nodes] [combo]
  obtain ⟨-, hswap, -⟩ := hsections [] []
  obtain ⟨-, -, hask, -⟩ := hsections [nodes] []
  exact ⟨⟨hkind, hignored, hnames, rfl, hdropdown⟩, hinsert relation (hkind ▸ hignored),
    hswap nodes combo hnames, hask combo "k" hkind rfl hdropdown⟩

end UiBinding.Component
