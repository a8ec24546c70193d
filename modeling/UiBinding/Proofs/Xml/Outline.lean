/-
What an element tree keeps of a document: every element where it stands, under its local name and
with its attributes under theirs, and nothing of what stands between the elements.

Elements are listed with their depths, a parent before its children.  Such a listing determines the
trees listed (`Element.rowsAll_append_inj`), so a document and its element tree are compared by
their listings.

* `Element.rows_ofDocument`: the listing of the element tree is that of the document;
* `Element.standsFor_iff`: what an element shows of the tag that it stands for;
* `Document.outline_of_reannotated`: text, comments and processing instructions are not listed;
* `Element.kept_of_read?`: the element tree of a text, and of all texts that differ from it between
  the elements only.
-/
import Mathlib.Tactic
import UiBinding.Component.Reading
import UiBinding.Package.Manifest
import UiBinding.Proofs.Catalog

namespace UiBinding.Xml

/-! ### Listing a document -/

mutual

/-- The tags at a node with their depths, a tag before those inside its element. -/
def Node.outline (depth : ℕ) : Node → List (ℕ × Tag)
  | .element tag children => (depth, tag) :: Node.outlineAll (depth + 1) children
  | .text _ => []
  | .comment _ => []
  | .instruction _ _ => []

/-- The tags at several nodes with their depths. -/
def Node.outlineAll (depth : ℕ) : List Node → List (ℕ × Tag)
  | [] => []
  | node :: rest => node.outline depth ++ Node.outlineAll depth rest

end

/-- The tags of a document with their depths.  Around the root element there are none. -/
def Document.outline (d : Document) : List (ℕ × Tag) := (0, d.root) :: Node.outlineAll 1 d.content

namespace Element

/-! ### A listing determines the trees -/

/-- A line of a listing: the depth, the local name and the attributes of an element. -/
abbrev Row := ℕ × String × Attributes

/-- The line that an element at a depth gives. -/
def row (p : ℕ × Element) : Row := (p.1, p.2.name, p.2.attributes)

/-- The listing of a tree whose root has the given depth. -/
def rows (depth : ℕ) (e : Element) : List Row := (preorder depth e).map row

/-- The listing of several trees whose roots have the given depth. -/
def rowsAll (depth : ℕ) (es : List Element) : List Row := (preorderAll depth es).map row

@[simp]
lemma rows_mk (depth : ℕ) (name : String) (attributes : Attributes) (children : List Element) :
    rows depth (mk name attributes children) =
      (depth, name, attributes) :: rowsAll (depth + 1) children := by
  rw [rows, preorder]
  rfl

@[simp]
lemma rowsAll_nil (depth : ℕ) : rowsAll depth [] = [] := by
  rw [rowsAll, preorderAll]
  rfl

@[simp]
lemma rowsAll_cons (depth : ℕ) (e : Element) (rest : List Element) :
    rowsAll depth (e :: rest) = rows depth e ++ rowsAll depth rest := by
  rw [rowsAll, preorderAll, List.map_append]
  rfl

/-- Whether what follows in a listing begins above the given depth, so that no tree of that depth
is continued by it. -/
def Outside (depth : ℕ) (more : List Row) : Prop := ∀ r ∈ more.head?, r.1 < depth

/-- A tree is not continued by the trees beside it. -/
lemma outside_rowsAll_append {depth : ℕ} {more : List Row} (hmore : Outside depth more)
    (es : List Element) : Outside (depth + 1) (rowsAll depth es ++ more) := by
  intro r hr
  cases es with
  | nil => exact (hmore r (by simpa using hr)).trans (Nat.lt_succ_self depth)
  | cons e rest =>
      obtain ⟨name, attributes, children⟩ := e
      have hfirst : (depth, name, attributes) = r := by simpa using hr
      exact hfirst ▸ Nat.lt_succ_self depth

/-- Trees of some depth are not listed where only lines above it may follow. -/
lemma rowsAll_cons_append_ne {depth : ℕ} {more : List Row} (hmore : Outside depth more)
    (e : Element) (rest : List Element) (others : List Row) :
    rowsAll depth (e :: rest) ++ others ≠ more := by
  rintro rfl
  obtain ⟨name, attributes, children⟩ := e
  exact Nat.lt_irrefl depth (hmore (depth, name, attributes) (by simp))

mutual

/-- A listing determines its first tree and what follows that. -/
theorem rows_append_inj (depth : ℕ) : ∀ (e e' : Element) (more more' : List Row),
    Outside (depth + 1) more → Outside (depth + 1) more' →
    rows depth e ++ more = rows depth e' ++ more' → e = e' ∧ more = more'
  | mk name attributes children, mk name' attributes' children', more, more', hmore, hmore', h => by
      simp only [rows_mk, List.cons_append, List.cons.injEq, Prod.mk.injEq, true_and] at h
      obtain ⟨⟨rfl, rfl⟩, hinside⟩ := h
      obtain ⟨rfl, rfl⟩ :=
        rowsAll_append_inj (depth + 1) children children' more more' hmore hmore' hinside
      exact ⟨rfl, rfl⟩

/-- A listing determines the trees of one depth that it begins with and what follows those. -/
theorem rowsAll_append_inj (depth : ℕ) : ∀ (es es' : List Element) (more more' : List Row),
    Outside depth more → Outside depth more' →
    rowsAll depth es ++ more = rowsAll depth es' ++ more' → es = es' ∧ more = more'
  | [], [], _, _, _, _, h => ⟨rfl, by simpa using h⟩
  | [], e' :: rest', _, more', hmore, _, h =>
      absurd h.symm (rowsAll_cons_append_ne hmore e' rest' more')
  | e :: rest, [], more, _, _, hmore', h =>
      absurd h (rowsAll_cons_append_ne hmore' e rest more)
  | e :: rest, e' :: rest', more, more', hmore, hmore', h => by
      rw [rowsAll_cons, rowsAll_cons, List.append_assoc, List.append_assoc] at h
      -- the first tree ends where the listing comes back to its depth, on both sides alike
      obtain ⟨rfl, hrest⟩ := rows_append_inj depth e e' _ _
        (outside_rowsAll_append hmore rest) (outside_rowsAll_append hmore' rest') h
      obtain ⟨rfl, rfl⟩ := rowsAll_append_inj depth rest rest' more more' hmore hmore' hrest
      exact ⟨rfl, rfl⟩

end

/-- Two trees with one listing are equal. -/
theorem rows_injective (depth : ℕ) : Function.Injective (rows depth) := by
  intro e e' h
  have hnothing : Outside (depth + 1) [] := by simp [Outside]
  exact (rows_append_inj depth e e' [] [] hnothing hnothing (by rw [h])).1

/-! ### From a document to its listing -/

end Element

/-- The line that the element of a tag at a depth gives. -/
def Tag.row (p : ℕ × Tag) : Element.Row :=
  (p.1, p.2.name.localName, Element.attributesOfTag p.2)

namespace Element

mutual

/-- A node without element tree has no tags, and one with an element tree has the tags listed. -/
theorem rowsAll_ofNode? (depth : ℕ) : ∀ node : Node,
    rowsAll depth (ofNode? node).toList = (node.outline depth).map Tag.row
  | .element tag children => by
      rw [ofNode?, Option.toList_some, rowsAll_cons, rowsAll_nil, List.append_nil, rows_mk,
        rowsAll_ofNodes (depth + 1) children, Node.outline, List.map_cons]
      rfl
  | .text _ => by rw [ofNode?, Option.toList_none, rowsAll_nil, Node.outline, List.map_nil]
  | .comment _ => by rw [ofNode?, Option.toList_none, rowsAll_nil, Node.outline, List.map_nil]
  | .instruction _ _ => by rw [ofNode?, Option.toList_none, rowsAll_nil, Node.outline, List.map_nil]

/-- The listing of the element trees among the nodes is that of the nodes. -/
theorem rowsAll_ofNodes (depth : ℕ) : ∀ nodes : List Node,
    rowsAll depth (ofNodes nodes) = (Node.outlineAll depth nodes).map Tag.row
  | [] => by rw [ofNodes, rowsAll_nil, Node.outlineAll, List.map_nil]
  | node :: rest => by
      have hfirst := rowsAll_ofNode? depth node
      have hrest := rowsAll_ofNodes depth rest
      rw [Node.outlineAll, List.map_append, ← hfirst, ← hrest, ofNodes]
      cases ofNode? node with
      | none => rw [Option.toList_none, rowsAll_nil, List.nil_append]
      | some e => rw [Option.toList_some, rowsAll_cons, rowsAll_cons, rowsAll_nil, List.append_nil]

end

/-- The listing of the element tree of a document is that of the document. -/
theorem rows_ofDocument (d : Document) : rows 0 (ofDocument d) = d.outline.map Tag.row := by
  rw [ofDocument, rows_mk, rowsAll_ofNodes, Document.outline, List.map_cons]
  rfl

/-! ### Elements and tags -/

/-- An element stands for a tag: at the same depth and under its local name, with every local
attribute name once, where it first stands in the tag, and with the last of its values. -/
structure StandsFor (e : ℕ × Element) (t : ℕ × Tag) : Prop where
  depth : e.1 = t.1
  name : e.2.name = t.2.name.localName
  names : e.2.attributes.keys = (t.2.attributes.map fun a => a.name.localName).eraseDups
  values : ∀ name, e.2.attribute? name =
    (t.2.attributes.reverse.find? fun a => a.name.localName = name).map WrittenAttribute.value

/-- Every local attribute name is kept once, where it first stands. -/
lemma keys_attributesOfTag (t : Tag) :
    (attributesOfTag t).keys = (t.attributes.map fun a => a.name.localName).eraseDups := by
  rw [attributesOfTag, Catalog.keys_ofList, List.map_map]
  rfl

/-- Under a local name, the last value is found. -/
lemma find?_attributesOfTag (t : Tag) (name : String) :
    ((attributesOfTag t).find? name).map Prod.snd =
      (t.attributes.reverse.find? fun a => a.name.localName = name).map WrittenAttribute.value := by
  rw [attributesOfTag, Catalog.ofList, Catalog.find?_foldl_insert, ← List.map_reverse,
    List.find?_map]
  cases ht : t.attributes.reverse.find? fun a => a.name.localName = name with
  | none => simp [ht, Catalog.find?, Catalog.empty]
  | some a => simp [ht]

/-- What is found under a name is known from its value. -/
lemma find?_eq_map (attributes : Attributes) (name : String) :
    attributes.find? name = ((attributes.find? name).map Prod.snd).map (Prod.mk name) := by
  cases hfound : attributes.find? name with
  | none => rfl
  | some a =>
      obtain ⟨-, rfl⟩ := Catalog.find?_eq_some_iff.mp hfound
      rfl

/-- An element stands for a tag exactly when it gives the line of the tag. -/
lemma standsFor_iff {e : ℕ × Element} {t : ℕ × Tag} : StandsFor e t ↔ row e = Tag.row t := by
  constructor
  · rintro ⟨hdepth, hname, hnames, hvalues⟩
    have hattributes : e.2.attributes = attributesOfTag t.2 := by
      -- the names in order and the value under each name leave no choice of the attributes
      refine Catalog.ext_find? (hnames.trans (keys_attributesOfTag t.2).symm) fun name => ?_
      rw [find?_eq_map, find?_eq_map (attributesOfTag t.2), find?_attributesOfTag, ← hvalues name]
      rfl
    rw [row, Tag.row, hdepth, hname, hattributes]
  · intro h
    simp only [row, Tag.row, Prod.mk.injEq] at h
    obtain ⟨hdepth, hname, hattributes⟩ := h
    refine ⟨hdepth, hname, ?_, fun name => ?_⟩
    · rw [hattributes, keys_attributesOfTag]
    · rw [attribute?, hattributes, find?_attributesOfTag]

/-- The elements of a tree stand for the tags listed exactly when the tree gives their lines. -/
lemma forall₂_standsFor_iff {e : Element} {l : List (ℕ × Tag)} :
    List.Forall₂ StandsFor (e.preorder 0) l ↔ rows 0 e = l.map Tag.row := by
  rw [rows, ← List.forall₂_eq_eq_eq, List.forall₂_map_left_iff, List.forall₂_map_right_iff]
  exact ⟨List.Forall₂.imp fun _ _ => standsFor_iff.mp, List.Forall₂.imp fun _ _ => standsFor_iff.mpr⟩

end Element

/-! ### Between the elements -/

/-- Whether a node is an element. -/
def Node.isElement : Node → Bool
  | .element _ _ => true
  | .text _ => false
  | .comment _ => false
  | .instruction _ _ => false

/-- One text, comment or processing instruction is inserted among nodes, at any depth. -/
inductive Node.Inserted : List Node → List Node → Prop
  | here (node : Node) (rest : List Node) (h : node.isElement = false) :
    Inserted rest (node :: rest)
  | later (node : Node) {rest rest' : List Node} (h : Inserted rest rest') :
    Inserted (node :: rest) (node :: rest')
  | inside (tag : Tag) {children children' : List Node} (rest : List Node)
    (h : Inserted children children') :
    Inserted (.element tag children :: rest) (.element tag children' :: rest)

/-- One text, comment or processing instruction is inserted into a document: before the root
element, inside it or after it. -/
inductive Document.Inserted : Document → Document → Prop
  | prolog (d : Document) {nodes : List Node} (h : Node.Inserted d.prolog nodes) :
    Inserted d { d with prolog := nodes }
  | content (d : Document) {nodes : List Node} (h : Node.Inserted d.content nodes) :
    Inserted d { d with content := nodes }
  | epilog (d : Document) {nodes : List Node} (h : Node.Inserted d.epilog nodes) :
    Inserted d { d with epilog := nodes }

/-- Two documents differ only in text, comments and processing instructions: by inserting and
removing them one becomes the other. -/
def Document.Reannotated : Document → Document → Prop := Relation.EqvGen Document.Inserted

/-- A node that is no element has no tags. -/
lemma Node.outline_eq_nil {node : Node} (h : node.isElement = false) (depth : ℕ) :
    node.outline depth = [] := by
  cases node with
  | element tag children => cases h
  | text content => rw [Node.outline]
  | comment content => rw [Node.outline]
  | instruction target content => rw [Node.outline]

/-- What is inserted between tags is not listed. -/
lemma Node.outlineAll_of_inserted {nodes nodes' : List Node} (h : Node.Inserted nodes nodes') :
    ∀ depth, Node.outlineAll depth nodes = Node.outlineAll depth nodes' := by
  induction h with
  | here node rest hnode =>
      intro depth
      rw [Node.outlineAll, Node.outline_eq_nil hnode, List.nil_append]
  | later node _ ih =>
      intro depth
      rw [Node.outlineAll, Node.outlineAll, ih depth]
  | inside tag rest _ ih =>
      intro depth
      rw [Node.outlineAll, Node.outlineAll, Node.outline, Node.outline, ih (depth + 1)]

/-- An insertion leaves the tags of a document as they are. -/
lemma Document.outline_of_inserted {d d' : Document} (h : d.Inserted d') :
    d.outline = d'.outline := by
  cases h with
  | prolog h => rfl
  | content h => rw [Document.outline, Document.outline, Node.outlineAll_of_inserted h 1]
  | epilog h => rfl

/-- Documents that differ only in text, comments and processing instructions have the same tags at
the same depths. -/
theorem Document.outline_of_reannotated {d d' : Document} (h : d.Reannotated d') :
    d.outline = d'.outline := by
  induction h with
  | rel d d' hinserted => exact outline_of_inserted hinserted
  | refl d => rfl
  | symm d d' _ ih => exact ih.symm
  | trans d d' d'' _ _ ih ih' => exact ih.trans ih'

namespace Element

/-- Documents that differ only in text, comments and processing instructions have the same element
tree. -/
theorem ofDocument_of_reannotated {d d' : Document} (h : d.Reannotated d') :
    ofDocument d' = ofDocument d := by
  refine rows_injective 0 ?_
  rw [rows_ofDocument, rows_ofDocument, Document.outline_of_reannotated h]

/-- The element tree of a well-formed text has one element for every tag of the document, and no
other tree has these elements at these depths in this order.  A text whose document differs from it
only in text, comments and processing instructions has the same element tree, and with it declares
the same package and component. -/
theorem kept_of_read? {text : String} {d : Document} (hread : Document.read? text = some d) :
    ∃ root, read? text = some root ∧
      List.Forall₂ StandsFor (root.preorder 0) d.outline ∧
      (∀ other : Element, List.Forall₂ StandsFor (other.preorder 0) d.outline → other = root) ∧
      ∀ (text' : String) (d' : Document), Document.read? text' = some d' → d.Reannotated d' →
        ∃ root', read? text' = some root' ∧ root' = root ∧
          (∀ folder name file, Package.ofManifestFile root' folder name file =
            Package.ofManifestFile root folder name file) ∧
          ∀ package entry, Component.Reading.ofElement package entry root' =
            Component.Reading.ofElement package entry root := by
  have hrows := rows_ofDocument d
  refine ⟨ofDocument d, by rw [read?, hread, Option.map_some], forall₂_standsFor_iff.mpr hrows,
    fun other hother => ?_, fun text' d' hread' hsame => ?_⟩
  · exact rows_injective 0 ((forall₂_standsFor_iff.mp hother).trans hrows.symm)
  · have htree := ofDocument_of_reannotated hsame
    exact ⟨ofDocument d', by rw [read?, hread', Option.map_some], htree,
      fun folder name file => by rw [htree], fun package entry => by rw [htree]⟩

/-- A manifest whose root has two attributes with one local name. -/
def bareManifest : String :=
  "<m f:id=\"q\" size=\"1\" id=\"p\" xmlns:f=\"u\"><resources><component id=\"a\"/></resources>" ++
    "<publish/></m>"

/-- The manifest with a comment, a text and a processing instruction, which stands between the two
sections. -/
def annotatedManifest : String :=
  "<!--head--><m f:id=\"q\" size=\"1\" id=\"p\" xmlns:f=\"u\"><resources>text<component id=\"a\"/>" ++
    "</resources><?between?><publish/></m>"

/-- The document of a manifest with the given nodes before the root element, before the component
and between the sections. -/
def manifestDocument (head inside between : List Node) : Document where
  prolog := head
  root := ⟨⟨"", "m"⟩, [⟨⟨"f", "id"⟩, "q"⟩, ⟨⟨"", "size"⟩, "1"⟩, ⟨⟨"", "id"⟩, "p"⟩]⟩
  content :=
    .element ⟨⟨"", "resources"⟩, []⟩
        (inside ++ [.element ⟨⟨"", "component"⟩, [⟨⟨"", "id"⟩, "a"⟩]⟩ []]) ::
      (between ++ [.element ⟨⟨"", "publish"⟩, []⟩ []])
  epilog := []

/-- What annotates the manifest, also between its two sections, leaves its element tree as it is, in
which the one local name has its first place and its last value. -/
theorem kept_of_read?_annotated :
    Document.read? bareManifest = some (manifestDocument [] [] []) ∧
      Document.read? annotatedManifest = some (manifestDocument [.comment "head"] [.text "text"]
        [.instruction "between" ""]) ∧
      ∃ root root', read? bareManifest = some root ∧ read? annotatedManifest = some root' ∧
        root' = root ∧
        List.Forall₂ StandsFor (root.preorder 0) (manifestDocument [] [] []).outline ∧
        root.attributes.items = [("id", "p"), ("size", "1")] ∧
        (∀ folder name file, Package.ofManifestFile root' folder name file =
          Package.ofManifestFile root folder name file) ∧
        ∀ package entry, Component.Reading.ofElement package entry root' =
          Component.Reading.ofElement package entry root := by
  have hbare : Document.read? bareManifest = some (manifestDocument [] [] []) := by
    set_option maxRecDepth 4000 in with_unfolding_all rfl
  have hannotated : Document.read? annotatedManifest =
      some (manifestDocument [.comment "head"] [.text "text"] [.instruction "between" ""]) := by
    set_option maxRecDepth 4000 in with_unfolding_all rfl
  have hhead : (manifestDocument [] [] []).Inserted (manifestDocument [.comment "head"] [] []) :=
    .prolog _ (.here _ _ rfl)
  have hinside : (manifestDocument [.comment "head"] [] []).Inserted
      (manifestDocument [.comment "head"] [.text "text"] []) :=
    .content _ (.inside _ _ (.here _ _ rfl))
  have hbetween : (manifestDocument [.comment "head"] [.text "text"] []).Inserted
      (manifestDocument [.comment "head"] [.text "text"] [.instruction "between" ""]) :=
    .content _ (.later _ (.here _ _ rfl))
  have hsame : (manifestDocument [] [] []).Reannotated
      (manifestDocument [.comment "head"] [.text "text"] [.instruction "between" ""]) :=
    .trans _ _ _ (.rel _ _ hhead) (.trans _ _ _ (.rel _ _ hinside) (.rel _ _ hbetween))
  obtain ⟨root, hroot, hlisted, -, hothers⟩ := kept_of_read? hbare
  obtain ⟨root', hroot', heq, hpackage, hcomponent⟩ := hothers _ _ hannotated hsame
  refine ⟨hbare, hannotated, root, root', hroot, hroot', heq, hlisted, ?_, hpackage, hcomponent⟩
  have htree : some root = some (ofDocument (manifestDocument [] [] [])) := by
    rw [← hroot, read?, hbare, Option.map_some]
  rw [Option.some.inj htree]
  decide +kernel

end Element

end UiBinding.Xml
