/-
Warnings: which problems a parsing records, and in which order.

A parsing goes through folders, in each package through its entries, and in each component file
through the nodes of the display list.  On each of the three levels the problems of one thing are
recorded before those of the next, so what is recorded in the end can be read off the disk.

* `InTurn`: problems that are recorded for the things of a list, one thing after the other, and
  `inTurn_iff`, which puts together what is recorded for each;
* `Component.KindProblem`, `Component.NodeProblem`, `Disk.FileProblems` and `Disk.FolderProblems`
  say what is recorded for a kind, a node, a component file and a folder, and a lemma on each says
  that this is what is found;
* `recorded_in_order`: the warnings of a parsing.
-/
import UiBinding.Proofs.Assets.Texts

namespace UiBinding

/-- Problems are recorded for the things of a list, those of one thing before those of the next. -/
inductive InTurn {α : Type} (records : α → List Diagnostic → Prop) :
    List α → List Diagnostic → Prop
  | nil : InTurn records [] []
  | cons {a : α} {rest : List α} {problems later : List Diagnostic} (h : records a problems)
      (hrest : InTurn records rest later) : InTurn records (a :: rest) (problems ++ later)

/-- If it is known for each thing what is recorded for it, it is known for all of them. -/
lemma inTurn_iff {α : Type} {records : α → List Diagnostic → Prop} {found : α → List Diagnostic}
    {things : List α} (h : ∀ a ∈ things, ∀ problems, records a problems ↔ problems = found a)
    {problems : List Diagnostic} :
    InTurn records things problems ↔ problems = things.flatMap found := by
  induction things generalizing problems with
  | nil =>
      constructor
      · rintro ⟨⟩
        rfl
      · rintro rfl
        exact .nil
  | cons a rest ih =>
      obtain ⟨ha, hrest⟩ := List.forall_mem_cons.mp h
      rw [List.flatMap_cons]
      constructor
      · intro hrecorded
        cases hrecorded with
        | cons hfirst hlater => rw [(ha _).mp hfirst, (ih hrest).mp hlater]
      · rintro rfl
        exact .cons ((ha _).mpr rfl) ((ih hrest).mpr rfl)

/-! ### Kinds -/

namespace Component

/-- A component file names a kind: by the first of the two attributes that is not empty. -/
inductive NamesKind (root : Xml.Element) (name : String) : Prop
  | usual (h : root.attribute? "extention" = some name) (hname : name ≠ "")
  | other (hnone : ∀ value, root.attribute? "extention" = some value → value = "")
      (h : root.attribute? "extension" = some name) (hname : name ≠ "")

/-- What is recorded for the kind of a component: a problem, if a kind is named that there is
not. -/
inductive KindProblem (label : String) (root : Xml.Element) : List Diagnostic → Prop
  | unnamed (h : ∀ name, ¬ NamesKind root name) : KindProblem label root []
  | known {kind : Kind} (h : NamesKind root kind.name) : KindProblem label root []
  | unknown {name : String} (h : NamesKind root name) (hname : ∀ kind : Kind, kind.name ≠ name) :
      KindProblem label root [.unknownComponentKind label name]

/-- An attribute has a value that is not empty. -/
lemma nonEmptyAttribute?_eq_some_iff {e : Xml.Element} {name value : String} :
    e.nonEmptyAttribute? name = some value ↔ e.attribute? name = some value ∧ value ≠ "" := by
  simp [Xml.Element.nonEmptyAttribute?, Option.filter_eq_some_iff]

/-- The kind that is named is the one that is read. -/
lemma namesKind_iff {root : Xml.Element} {name : String} :
    NamesKind root name ↔ kindName? root = some name := by
  have hnone := Package.nonEmptyAttribute?_eq_none_iff root "extention"
  rw [kindName?, Option.or_eq_some_iff, nonEmptyAttribute?_eq_some_iff, hnone,
    nonEmptyAttribute?_eq_some_iff]
  constructor
  · rintro (⟨h, hname⟩ | ⟨hnone, h, hname⟩)
    · exact Or.inl ⟨h, hname⟩
    · exact Or.inr ⟨hnone, h, hname⟩
  · rintro (⟨h, hname⟩ | ⟨hnone, h, hname⟩)
    · exact .usual h hname
    · exact .other hnone h hname

/-- No kind has a name exactly if none is known by it. -/
lemma ofName?_eq_none_iff {name : String} :
    Kind.ofName? name = none ↔ ∀ kind : Kind, kind.name ≠ name := by
  rw [Option.eq_none_iff_forall_ne_some]
  exact forall_congr' fun kind => not_congr Kind.ofName?_eq_some_iff

/-- **What is recorded for a kind** is what is found wrong with it. -/
lemma kindProblem_iff {label : String} {root : Xml.Element} {problems : List Diagnostic} :
    KindProblem label root problems ↔ problems = kindProblems label root := by
  cases hnamed : kindName? root with
  | none =>
      have hunnamed : ∀ name, ¬ NamesKind root name := fun name h => by
        rw [namesKind_iff, hnamed] at h
        cases h
      have hfound : kindProblems label root = [] := by rw [kindProblems, hnamed]
      rw [hfound]
      constructor
      · rintro (_ | h | ⟨h, -⟩)
        · rfl
        · exact absurd h (hunnamed _)
        · exact absurd h (hunnamed _)
      · rintro rfl
        exact .unnamed hunnamed
  | some name =>
      have hname : NamesKind root name := namesKind_iff.mpr hnamed
      have hunique : ∀ other, NamesKind root other → other = name := fun other h => by
        rw [namesKind_iff, hnamed] at h
        exact (Option.some.inj h).symm
      cases hkind : Kind.ofName? name with
      | none =>
          have hfound : kindProblems label root = [.unknownComponentKind label name] :=
            (kind_of_unknown hnamed hkind).2
          rw [ofName?_eq_none_iff] at hkind
          rw [hfound]
          constructor
          · rintro (h | @⟨kind, h⟩ | @⟨other, h, -⟩)
            · exact absurd hname (h name)
            · exact absurd (hunique _ h) (hkind kind)
            · rw [hunique other h]
          · rintro rfl
            exact .unknown hname hkind
      | some kind =>
          have hfound : kindProblems label root = [] := by simp [kindProblems, hnamed, hkind]
          obtain rfl := Kind.ofName?_eq_some_iff.mp hkind
          rw [hfound]
          constructor
          · rintro (_ | _ | @⟨other, h, hother⟩)
            · rfl
            · rfl
            · exact absurd (hunique other h).symm (hother kind)
          · rintro rfl
            exact .known hname

end Component

/-! ### Display nodes -/

/-- The tags of display objects. -/
def DisplayKind.tags : List String :=
  ["graph", "group", "image", "loader", "loader3D", "movieclip", "text", "textfield", "textinput",
    "richtext", "list", "component"]

/-- The kind of a node is unknown exactly if its tag is none of these. -/
lemma DisplayKind.ofElement_eq_unknown_iff {node : Xml.Element} {tag : String} :
    ofElement node = .unknown tag ↔ node.name = tag ∧ node.name ∉ tags := by
  rw [ofElement, tags]
  split
  case h_7 hname => split <;> simp [hname]
  case h_13 => simp_all
  all_goals simp [*]

namespace Component

/-- What is recorded for a node of a display list: a problem, if its tag is not known. -/
inductive NodeProblem (label : String) (node : Xml.Element) : List Diagnostic → Prop
  | known (h : node.name ∈ DisplayKind.tags) : NodeProblem label node []
  | unknown (h : node.name ∉ DisplayKind.tags) :
      NodeProblem label node
        [.unknownDisplayNode label node.name (node.attributeOrEmpty "name")]

/-- The nodes that a component displays: those in its last display list, if there is one. -/
inductive Displays (root : Xml.Element) : List Xml.Element → Prop
  | last {before after : List Xml.Element} {list : Xml.Element}
      (h : root.children = before ++ list :: after) (hlist : list.name = "displayList")
      (hafter : ∀ child ∈ after, child.name ≠ "displayList") : Displays root list.children
  | none (h : ∀ child ∈ root.children, child.name ≠ "displayList") : Displays root []

/-- **What is recorded for a node** is what is found wrong with it. -/
lemma nodeProblem_iff (label : String) (node : Xml.Element) (problems : List Diagnostic) :
    NodeProblem label node problems ↔
      problems = (memberProblem? label ⟨node, false, none⟩).toList := by
  have hkind := fun tag => @DisplayKind.ofElement_eq_unknown_iff node tag
  by_cases htag : node.name ∈ DisplayKind.tags
  · have hfound : memberProblem? label ⟨node, false, none⟩ = none := by
      rw [memberProblem?]
      split
      · next tag htag' => exact absurd htag ((hkind tag).mp htag').2
      · rfl
    rw [hfound]
    constructor
    · rintro (_ | h)
      · rfl
      · exact absurd htag h
    · rintro rfl
      exact .known htag
  · have hfound : memberProblem? label ⟨node, false, none⟩ =
        some (.unknownDisplayNode label node.name (node.attributeOrEmpty "name")) := by
      rw [memberProblem?, Member.kind, (hkind node.name).mpr ⟨rfl, htag⟩]
      rfl
    rw [hfound]
    constructor
    · rintro (h | _)
      · exact absurd h htag
      · rfl
    · rintro rfl
      exact .unknown htag

/-- The nodes that are displayed are those that are read. -/
lemma displays_iff {root : Xml.Element} {nodes : List Xml.Element} :
    Displays root nodes ↔ nodes = displayNodes root := by
  rw [displayNodes, childrenNamed]
  constructor
  · rintro (@⟨before, after, list, h, hlist, hafter⟩ | h)
    · have hnone : (after.filter fun e => e.name = "displayList") = [] := by
        simpa [List.filter_eq_nil_iff] using hafter
      rw [h, List.filter_append, List.filter_cons_of_pos (by simpa using hlist), hnone,
        List.getLast?_concat]
    · have hnone : (root.children.filter fun e => e.name = "displayList") = [] := by
        simpa [List.filter_eq_nil_iff] using h
      rw [hnone]
      rfl
  · rintro rfl
    cases hlast : (root.children.filter fun e => e.name = "displayList").getLast? with
    | none =>
        rw [List.getLast?_eq_none_iff, List.filter_eq_nil_iff] at hlast
        exact .none fun child hchild => by simpa using hlast child hchild
    | some list =>
        -- the last display list is the first one from behind
        rw [List.getLast?_filter, List.find?_eq_some_iff_append] at hlast
        obtain ⟨hlist, behind, front, hsplit, hbehind⟩ := hlast
        have hchildren : root.children = front.reverse ++ list :: behind.reverse := by
          rw [← List.reverse_reverse root.children, hsplit]
          simp
        refine .last hchildren (by simpa using hlist) fun child hchild => ?_
        simpa using hbehind child (List.mem_reverse.mp hchild)

/-- The problems with a component file that can be read: the kind first, and then node by node. -/
lemma Reading.problems_ofElement (p : Package) (entry : Package.Entry) (root : Xml.Element) :
    (ofElement p entry root).problems = kindProblems (label p.name entry.fileName) root ++
      (displayNodes root).flatMap fun node =>
        (memberProblem? (label p.name entry.fileName) ⟨node, false, none⟩).toList := by
  simp only [ofElement, List.filterMap_eq_flatMap_toList, List.flatMap_map]

end Component

/-! ### Component files and folders -/

namespace Disk

variable (d : Disk)

/-- What is recorded for a component file: that it cannot be read, or the problem with its kind and
then those with the nodes that it displays. -/
inductive FileProblems (p : Package) (entry : Package.Entry) : List Diagnostic → Prop
  | unreadable {reason : String} (h : d.readElement entry.path = .error reason) :
      FileProblems p entry [.unreadableComponent entry.path.text reason]
  | read {root : Xml.Element} {nodes : List Xml.Element} {kind display : List Diagnostic}
      (h : d.readElement entry.path = .ok root)
      (hkind : Component.KindProblem (Component.label p.name entry.fileName) root kind)
      (hnodes : Component.Displays root nodes)
      (hdisplay : InTurn (Component.NodeProblem (Component.label p.name entry.fileName)) nodes
        display) : FileProblems p entry (kind ++ display)

/-- What is recorded for a folder: why it is passed over, or the problems with the component files
of its package, in the order of the entries.  For a folder that is refused nothing is recorded, as
it ends the parsing. -/
inductive FolderProblems (folder : Path) : List Diagnostic → Prop
  | skipped {problem : Diagnostic} (h : d.PassesOver folder problem) :
      FolderProblems folder [problem]
  | accepted {p : Package} {problems : List Diagnostic} (h : d.package? folder = some p)
      (hfiles : InTurn (d.FileProblems p) p.entries.items problems) :
      FolderProblems folder problems

variable {d}

/-- **What is recorded for a component file** are the problems met in it. -/
lemma fileProblems_iff (p : Package) (entry : Package.Entry) (problems : List Diagnostic) :
    d.FileProblems p entry problems ↔ problems = (d.readComponent p entry).problems := by
  rw [readComponent]
  cases hread : d.readElement entry.path with
  | error reason =>
      constructor
      · rintro (h | h)
        · cases hread.symm.trans h
          rfl
        · cases hread.symm.trans h
      · rintro rfl
        exact .unreadable hread
  | ok root =>
      have hnodes : ∀ nodes display, InTurn (Component.NodeProblem
          (Component.label p.name entry.fileName)) nodes display ↔
          display = nodes.flatMap fun node => (Component.memberProblem?
            (Component.label p.name entry.fileName) ⟨node, false, none⟩).toList :=
        fun nodes display => inTurn_iff fun node _ => Component.nodeProblem_iff _ node
      rw [ComponentFile.problems, Component.Reading.problems_ofElement]
      constructor
      · rintro (h | ⟨h, hkind, hdisplays, hdisplay⟩)
        · cases hread.symm.trans h
        · cases hread.symm.trans h
          rw [Component.kindProblem_iff.mp hkind, (hnodes _ _).mp hdisplay,
            Component.displays_iff.mp hdisplays]
      · rintro rfl
        exact .read hread (Component.kindProblem_iff.mpr rfl) (Component.displays_iff.mpr rfl)
          ((hnodes _ _).mpr rfl)

/-- **What is recorded for a folder** that is not refused are the problems met in it. -/
lemma folderProblems_iff {folder : Path} (h : ∀ problem, d.readPackage folder ≠ .refused problem)
    (problems : List Diagnostic) :
    d.FolderProblems folder problems ↔ problems = (d.readPackage folder).problems := by
  have hfiles : ∀ p found, InTurn (d.FileProblems p) p.entries.items found ↔
      found = (d.readEntries p).problems := by
    intro p found
    have hturn : InTurn (d.FileProblems p) p.entries.items found ↔
        found = d.entryProblems p p.entries.items :=
      inTurn_iff fun entry _ => fileProblems_iff p entry
    rw [hturn, entryProblems, readEntries, PackageFolder.problems, List.flatMap_map]
  constructor
  · rintro (hskipped | ⟨hpackage, hfound⟩)
    · rw [readPackage_eq_skipped_iff.mpr hskipped]
      rfl
    · rw [readPackage_of_package? hpackage, (hfiles _ _).mp hfound]
  · rintro rfl
    cases hread : d.readPackage folder with
    | skipped problem => exact .skipped (readPackage_eq_skipped_iff.mp hread)
    | refused problem => exact absurd hread (h problem)
    | accepted p files =>
        have hpackage : d.package? folder = some p := package?_eq_some_iff.mpr ⟨files, hread⟩
        refine .accepted hpackage ((hfiles _ _).mpr ?_)
        rw [← readPackage_of_package? hpackage, hread]

/-- **Every recoverable problem is recorded once, in order**: the warnings of a parsing that comes
to its end are what is recorded for its folders, and nothing else. -/
theorem recorded_in_order {folders : List Path} {a : Assets}
    (hparse : (d.parse folders).outcome = .ok a) (problems : List Diagnostic) :
    InTurn d.FolderProblems folders problems ↔ a.registry.warnings = problems := by
  obtain ⟨hrefused, -⟩ := exists_parse_iff.mp ⟨a, hparse⟩
  have hwarnings := (gathers_of_parseInto hparse).warnings
  have hturn : InTurn d.FolderProblems folders problems ↔ problems = d.folderProblems folders :=
    inTurn_iff fun folder hfolder => folderProblems_iff (hrefused folder hfolder)
  rw [hturn, hwarnings, List.flatMap_map, eq_comm]
  rfl

/-- The files of a package.  One component has a kind that there is not and two display lists, of
which the last one holds unknown objects; the file of the other component breaks off. -/
def wornTexts : List (String × String) :=
  [("A/package.xml", "<package id='p'><resources><component id='a' name='M'/>" ++
      "<component id='b' name='N'/></resources><publish/></package>"),
    ("A/M", "<component extention='' extension='Knob'><displayList><lost/></displayList>" ++
      "<displayList><video name='v'/><text/><audio/></displayList></component>"),
    ("A/N", "<component>")]

/-- A disk with these files, and with a folder beside the package that has no manifest. -/
def worn : Disk := ofTexts ["A", "B"] wornTexts

/-- What is recorded for the disk: that a manifest is missing, and the problems with the component
files of the package. -/
lemma folderProblems_worn : ∃ p, worn.PassesOver ⟨"B"⟩ (.missingManifest "B/package.xml") ∧
    worn.package? ⟨"A"⟩ = some p ∧ InTurn (worn.FileProblems p) p.entries.items
      [.unknownComponentKind "A/M" "Knob", .unknownDisplayNode "A/M" "video" "v",
        .unknownDisplayNode "A/M" "audio" "", .unreadableComponent "A/N" Xml.malformed] := by
  have hreadable : Readable ["A", "B"] wornTexts := by decide +kernel
  have hmissing : worn.isFile (Path.join ⟨"B"⟩ Package.manifestFile) = false := by
    have hvacant : worn.IsVacant (Path.join ⟨"B"⟩ Package.manifestFile) := by decide +kernel
    rw [isFile, find?, hvacant.locate_eq]
  -- the manifest
  have hmanifest : (treeIn wornTexts (Path.join ⟨"A"⟩ Package.manifestFile)).bind (fun root =>
      (Package.ofManifest root ⟨"A"⟩ "A").toOption.map fun p => (p.name, p.entries.items)) =
      some ("A", [⟨"a", "M", ⟨"A/M"⟩, false⟩, ⟨"b", "N", ⟨"A/N"⟩, false⟩]) := by
    decide +kernel
  obtain ⟨root, hroot, hpackage⟩ := Option.bind_eq_some_iff.mp hmanifest
  obtain ⟨p, hp, hentries⟩ := Option.map_eq_some_iff.mp hpackage
  obtain ⟨hname, hentries⟩ := Prod.mk.inj hentries
  obtain ⟨hfile, hread⟩ := hreadable.readElement_eq hroot
  have hpackage : worn.package? ⟨"A"⟩ = some p := by
    have hfolder : Path.fileName? ⟨"A"⟩ = some "A" := by decide +kernel
    rw [package?, manifest?, worn, hfile, if_pos rfl, hread, hfolder]
    exact hp
  -- the component files
  have hfirst : (treeIn wornTexts ⟨"A/M"⟩).map (fun tree =>
      Component.kindProblems (Component.label "A" "M") tree ++
        (Component.displayNodes tree).flatMap fun node =>
          (Component.memberProblem? (Component.label "A" "M") ⟨node, false, none⟩).toList) =
      some [.unknownComponentKind "A/M" "Knob", .unknownDisplayNode "A/M" "video" "v",
        .unknownDisplayNode "A/M" "audio" ""] := by
    decide +kernel
  obtain ⟨tree, htree, hproblems⟩ := Option.map_eq_some_iff.mp hfirst
  have hfirst : worn.FileProblems p ⟨"a", "M", ⟨"A/M"⟩, false⟩
      [.unknownComponentKind "A/M" "Knob", .unknownDisplayNode "A/M" "video" "v",
        .unknownDisplayNode "A/M" "audio" ""] := by
    rw [fileProblems_iff, readComponent, worn, (hreadable.readElement_eq htree).2,
      ComponentFile.problems, Component.Reading.problems_ofElement, hname]
    exact hproblems.symm
  have hsecond : worn.FileProblems p ⟨"b", "N", ⟨"A/N"⟩, false⟩
      [.unreadableComponent "A/N" Xml.malformed] := by
    obtain ⟨-, htext⟩ := hreadable.readText_eq (.tail _ (.tail _ (.head _)))
    have hbroken : (Xml.Element.read? "<component>").isNone = true := by decide +kernel
    refine .unreadable ?_
    rw [readElement, worn, htext]
    simp only [Option.isNone_iff_eq_none.mp hbroken]
  have hfiles := InTurn.cons hfirst (InTurn.cons hsecond .nil)
  rw [← hentries] at hfiles
  exact ⟨p, .missing hmissing, hpackage, hfiles⟩

/-- Both folders are parsed, and everything that is recorded for them is a warning. -/
theorem recorded_in_order_worn :
    ∃ a, (worn.parse [⟨"B"⟩, ⟨"A"⟩]).outcome = .ok a ∧ a.registry.warnings =
      [.missingManifest "B/package.xml", .unknownComponentKind "A/M" "Knob",
        .unknownDisplayNode "A/M" "video" "v", .unknownDisplayNode "A/M" "audio" "",
        .unreadableComponent "A/N" Xml.malformed] := by
  obtain ⟨p, hpasses, hpackage, hfiles⟩ := folderProblems_worn
  have hskipped := readPackage_eq_skipped_iff.mpr hpasses
  have haccepted := readPackage_of_package? hpackage
  have hparse : ∃ a, (worn.parse [⟨"B"⟩, ⟨"A"⟩]).outcome = .ok a := by
    rw [exists_parse_iff]
    simp [hskipped, haccepted, readEntries, PackageFolder.packageIds, PackageFolder.packages]
  obtain ⟨a, ha⟩ := hparse
  have hrecorded := InTurn.cons (FolderProblems.skipped hpasses)
    (.cons (FolderProblems.accepted hpackage hfiles) .nil)
  exact ⟨a, ha, (recorded_in_order ha _).mp hrecorded⟩

end Disk

end UiBinding
