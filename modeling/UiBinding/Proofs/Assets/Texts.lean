/-
Disks of texts: what is read from a disk that is written down as a list of texts.

On such a disk every path is followed name by name, as no links are in the way, and the file at its
end holds the text that was written down for it.  So what a parsing comes to can be computed from
the texts.

* `Disk.IsPlain` and `IsPlain.locate_eq`: paths without links; `Disk.IsVacant` and
  `IsVacant.locate_eq`: paths to what is missing;
* `Disk.ofTexts` is the disk, and `Readable.readText_eq` reads a file of it;
* `Disk.readWith` reads a package folder from the element trees of its files;
* `Readable.readElement_eq` and `Readable.outcome_parse_eq`: element trees and parsings of such a
  disk; `Readable.exists_parse` is how facts about a parsing are computed.
-/
import UiBinding.Proofs.Assets.Isolation

namespace UiBinding.Disk

/-! ### Paths without links -/

/-- Whether a part of a path is a name, and none that stays where it is or leads to the folder
above. -/
def IsName (part : String) : Prop :=
  part ≠ "" ∧ part ≠ "." ∧ part ≠ ".." ∧ ¬ nameLimit < part.utf8ByteSize

instance (part : String) : Decidable (IsName part) := inferInstanceAs (Decidable (_ ∧ _))

/-- Whether the parts of a path, from a place on, are names of what is there, with nothing but
folders on the way. -/
def leadsTo (d : Disk) (here : Place) : List String → Bool
  | [] => true
  | part :: rest =>
    d.holdsFolder here && decide (IsName part) &&
      match d.content? (here ++ [part]) with
      | none | some (.link _) => false
      | some _ => d.leadsTo (here ++ [part]) rest

/-- The first of such parts is a name in a folder, of something that is no link. -/
lemma of_leadsTo_cons {d : Disk} {here : Place} {part : String} {rest : List String}
    (h : d.leadsTo here (part :: rest) = true) : d.holdsFolder here = true ∧ IsName part ∧
      (∃ content, d.content? (here ++ [part]) = some content ∧ ∀ target, content ≠ .link target) ∧
        d.leadsTo (here ++ [part]) rest = true := by
  rw [leadsTo, Bool.and_eq_true, Bool.and_eq_true, decide_eq_true_eq] at h
  obtain ⟨⟨hfolder, hname⟩, hrest⟩ := h
  cases hcontent : d.content? (here ++ [part]) with
  | none =>
      rw [hcontent] at hrest
      cases hrest
  | some content =>
      rw [hcontent] at hrest
      cases content with
      | link target => cases hrest
      | file bytes => exact ⟨hfolder, hname, ⟨_, rfl, nofun⟩, hrest⟩
      | folder => exact ⟨hfolder, hname, ⟨_, rfl, nofun⟩, hrest⟩

/-- Following a name of what is there, and of no link, leads to its place. -/
lemma follow_cons_of_name {d : Disk} {here : Place} {part : String} {rest : List String}
    {content : Content} (hfolder : d.holdsFolder here = true) (hname : IsName part)
    (hcontent : d.content? (here ++ [part]) = some content)
    (hlink : ∀ target, content ≠ .link target)
    (hrest : rest ≠ [] → ∃ name ∈ rest, name ≠ "") (creating : Bool) (links : ℕ) :
    d.follow creating links here (part :: rest) =
      d.follow creating links (here ++ [part]) rest := by
  obtain ⟨hempty, hpoint, hpoints, hsize⟩ := hname
  have hslash : ¬ (creating = true ∧ rest ≠ [] ∧ (rest.all (· = "")) = true) := by
    rintro ⟨-, hne, hall⟩
    obtain ⟨name, hmem, hname⟩ := hrest hne
    exact hname (of_decide_eq_true (List.all_eq_true.mp hall name hmem))
  rw [follow, hfolder, if_neg (by simp), if_neg (by simp [hempty, hpoint]), if_neg hpoints,
    if_neg hslash, if_neg hsize, hcontent]
  cases content with
  | link target => exact absurd rfl (hlink target)
  | file bytes => rfl
  | folder => rfl

/-- Such parts are followed to their end, one name after the other. -/
lemma follow_of_leadsTo {d : Disk} {here : Place} {parts : List String}
    (h : d.leadsTo here parts = true) (creating : Bool) (links : ℕ) :
    d.follow creating links here parts = .ok (.present (here ++ parts)) := by
  induction parts generalizing here with
  | nil => rw [follow, List.append_nil]
  | cons part rest ih =>
      obtain ⟨hfolder, hname, ⟨content, hcontent, hlink⟩, hrest⟩ := of_leadsTo_cons h
      have hnames : rest ≠ [] → ∃ name ∈ rest, name ≠ "" := by
        cases rest with
        | nil => simp
        | cons name rest => exact fun _ => ⟨name, .head _, (of_leadsTo_cons hrest).2.1.1⟩
      rw [follow_cons_of_name hfolder hname hcontent hlink hnames, ih hrest, List.append_assoc,
        List.singleton_append]

/-- A path that is followed name by name, starting in the working folder. -/
def IsPlain (d : Disk) (path : Path) : Prop :=
  path.text.toList.contains '\x00' = false ∧ path.text ≠ "" ∧
    ¬ pathLimit < path.text.utf8ByteSize ∧ path.isAbsolute = false ∧
      d.leadsTo d.workingFolder path.parts = true

instance (d : Disk) (path : Path) : Decidable (d.IsPlain path) :=
  inferInstanceAs (Decidable (_ ∧ _))

/-- A relative path is followed from the working folder. -/
lemma locate_of_relative {d : Disk} {path : Path} (hzero : path.text.toList.contains '\x00' = false)
    (hempty : path.text ≠ "") (hsize : ¬ pathLimit < path.text.utf8ByteSize)
    (habsolute : path.isAbsolute = false) (creating : Bool) :
    d.locate path creating = d.follow creating linkLimit d.workingFolder path.parts := by
  rw [locate, hzero, if_neg Bool.false_ne_true, if_neg hempty, if_neg hsize, habsolute,
    if_neg Bool.false_ne_true]

/-- Such a path leads to the place that its parts name. -/
lemma IsPlain.locate_eq {d : Disk} {path : Path} (h : d.IsPlain path) (creating : Bool) :
    d.locate path creating = .ok (.present (d.workingFolder ++ path.parts)) := by
  obtain ⟨hzero, hempty, hsize, habsolute, hleads⟩ := h
  rw [locate_of_relative hzero hempty hsize habsolute, follow_of_leadsTo hleads]

/-- If parts lead to a folder in which a name is missing, then the parts with this name behind them
lead to the place where it is missing. -/
lemma follow_append_of_leadsTo {d : Disk} {here : Place} {parts : List String} {name : String}
    (h : d.leadsTo here parts = true) (hfolder : d.holdsFolder (here ++ parts) = true)
    (hname : IsName name) (hnone : d.content? (here ++ parts ++ [name]) = none) (creating : Bool)
    (links : ℕ) : d.follow creating links here (parts ++ [name]) =
      .ok (.absent (here ++ parts ++ [name])) := by
  induction parts generalizing here with
  | nil =>
      obtain ⟨hempty, hpoint, hpoints, hsize⟩ := hname
      rw [List.append_nil] at hfolder hnone ⊢
      rw [List.nil_append, follow]
      simp [hfolder, hempty, hpoint, hpoints, hsize, hnone]
  | cons part rest ih =>
      obtain ⟨hhere, hpart, ⟨content, hcontent, hlink⟩, hrest⟩ := of_leadsTo_cons h
      have happend : here ++ part :: rest = here ++ [part] ++ rest := by simp
      rw [happend] at hfolder hnone ⊢
      rw [List.cons_append, follow_cons_of_name hhere hpart hcontent hlink
        fun _ => ⟨name, by simp, hname.1⟩]
      exact ih hrest hfolder hnone

/-- A path to a name that is missing in a folder. -/
def IsVacant (d : Disk) (path : Path) : Prop :=
  path.text.toList.contains '\x00' = false ∧ path.text ≠ "" ∧
    ¬ pathLimit < path.text.utf8ByteSize ∧ path.isAbsolute = false ∧
      d.leadsTo d.workingFolder path.parts.dropLast = true ∧
        d.holdsFolder (d.workingFolder ++ path.parts.dropLast) = true ∧
          (path.parts.getLast?.any fun name => decide (IsName name)) = true ∧
            (d.content? (d.workingFolder ++ path.parts)).isNone = true

instance (d : Disk) (path : Path) : Decidable (d.IsVacant path) :=
  inferInstanceAs (Decidable (_ ∧ _))

/-- Such a path leads to the place where the name is missing. -/
lemma IsVacant.locate_eq {d : Disk} {path : Path} (h : d.IsVacant path) (creating : Bool) :
    d.locate path creating = .ok (.absent (d.workingFolder ++ path.parts)) := by
  obtain ⟨hzero, hempty, hsize, habsolute, hleads, hfolder, hlast, hnone⟩ := h
  obtain ⟨name, hlast, hname⟩ := (Option.any_eq_true _ _).mp hlast
  have hparts : path.parts.dropLast ++ [name] = path.parts :=
    List.dropLast_append_getLast? name hlast
  rw [Option.isNone_iff_eq_none, ← hparts, ← List.append_assoc] at hnone
  rw [locate_of_relative hzero hempty hsize habsolute, ← hparts, ← List.append_assoc]
  exact follow_append_of_leadsTo hleads hfolder (of_decide_eq_true hname) hnone creating linkLimit

/-! ### Disks of texts -/

/-- A disk with folders and with texts in files, both written down with their paths. -/
def ofTexts (folders : List String) (texts : List (String × String)) : Disk where
  entries := .ofList (folders.map (fun folder => ⟨Path.parts ⟨folder⟩, .folder⟩) ++
    texts.map fun row => ⟨Path.parts ⟨row.1⟩, .file row.2.toUTF8⟩)
  workingFolder := []

/-- The files have different paths, which lead to them. -/
def Readable (folders : List String) (texts : List (String × String)) : Prop :=
  (texts.map fun row => Path.parts ⟨row.1⟩).Nodup ∧
    ∀ row ∈ texts, Path.parts ⟨row.1⟩ ≠ [] ∧ (ofTexts folders texts).IsPlain ⟨row.1⟩

instance (folders : List String) (texts : List (String × String)) :
    Decidable (Readable folders texts) := inferInstanceAs (Decidable (_ ∧ _))

variable {folders : List String} {texts : List (String × String)}

lemma content?_of_ne_nil (d : Disk) {place : Place} (h : place ≠ []) :
    d.content? place = (d.entries.find? place).map Entry.content := by
  cases place with
  | nil => exact absurd rfl h
  | cons name names => rfl

/-- A file holds the text that was written down for it. -/
lemma Readable.content?_eq (h : Readable folders texts) {path text : String}
    (hrow : (path, text) ∈ texts) :
    (ofTexts folders texts).content? (Path.parts ⟨path⟩) = some (.file text.toUTF8) := by
  obtain ⟨before, after, htexts, -, hafter⟩ := Catalog.exists_split_of_mem h.1 hrow
  have hmem : (⟨Path.parts ⟨path⟩, .file text.toUTF8⟩ : Entry) ∈
      (ofTexts folders texts).entries.items := by
    rw [ofTexts, htexts, List.map_append, List.map_cons, ← List.append_assoc]
    refine Catalog.mem_ofList_of_last fun entry hentry => ?_
    obtain ⟨row, hrow, rfl⟩ := List.mem_map.mp hentry
    intro (heq : Path.parts ⟨row.1⟩ = Path.parts ⟨path⟩)
    exact hafter (List.mem_map.mpr ⟨row, hrow, heq⟩)
  have hfound := Catalog.find?_eq_some_iff.mpr ⟨hmem, rfl⟩
  exact (content?_of_ne_nil _ (h.2 _ hrow).1).trans (congrArg (Option.map Entry.content) hfound)

/-- A file is found, and read as its text. -/
lemma Readable.readText_eq (h : Readable folders texts) {path text : String}
    (hrow : (path, text) ∈ texts) :
    (ofTexts folders texts).isFile ⟨path⟩ = true ∧
      (ofTexts folders texts).readText ⟨path⟩ = .ok text := by
  have hplace : (ofTexts folders texts).locate ⟨path⟩ = .ok (.present (Path.parts ⟨path⟩)) :=
    (h.2 _ hrow).2.locate_eq false
  have hcontent := h.content?_eq hrow
  refine ⟨?_, readText_of_locate hplace hcontent⟩
  rw [isFile, find?]
  rw [hplace]
  simp [hcontent]

/-! ### Reading with a table of trees -/

/-- The element tree of the text that is written down for a path. -/
def treeIn (texts : List (String × String)) (path : Path) : Option Xml.Element :=
  (texts.find? fun row => row.1 = path.text).bind fun row => Xml.Element.read? row.2

/-- Reads a package folder, taking the element trees of files from a table.  Files that the table
does not have are read from the disk. -/
def readWith (d : Disk) (tree? : Path → Option Xml.Element) (folder : Path) : PackageFolder :=
  match tree? (folder.join Package.manifestFile) with
  | none => d.readPackage folder
  | some root =>
    match Package.ofManifestFile root folder (folder.fileName?.getD "")
      (folder.join Package.manifestFile).text with
    | .error problem => .refused problem
    | .ok p => .accepted p (p.entries.items.map fun entry =>
        match tree? entry.path with
        | none => d.readComponent p entry
        | some root => .read (.ofElement p entry root))

/-- If the table is right, a folder is read with it as it is read from the disk. -/
lemma readPackage_eq_readWith {d : Disk} {tree? : Path → Option Xml.Element}
    (h : ∀ path root, tree? path = some root →
      d.isFile path = true ∧ d.readElement path = .ok root) (folder : Path) :
    d.readPackage folder = d.readWith tree? folder := by
  rw [readWith]
  cases htree : tree? (folder.join Package.manifestFile) with
  | none => rfl
  | some root =>
      obtain ⟨hfile, hroot⟩ := h _ root htree
      have hentry : ∀ p entry, d.readComponent p entry =
          match tree? entry.path with
          | none => d.readComponent p entry
          | some root => .read (.ofElement p entry root) := by
        intro p entry
        split
        · rfl
        · next root htree => rw [readComponent, (h _ root htree).2]
      simp only [readPackage, hfile, hroot, ← hentry]
      rfl

/-- The table of such a disk is right. -/
lemma Readable.readElement_eq (h : Readable folders texts) {path : Path} {root : Xml.Element}
    (htree : treeIn texts path = some root) :
    (ofTexts folders texts).isFile path = true ∧
      (ofTexts folders texts).readElement path = .ok root := by
  obtain ⟨⟨text, content⟩, hrow, hroot⟩ := Option.bind_eq_some_iff.mp htree
  obtain rfl : text = path.text := by simpa using List.find?_some hrow
  obtain ⟨hfile, htext⟩ := h.readText_eq (List.mem_of_find?_eq_some hrow)
  exact ⟨hfile, readElement_of_readText htext hroot⟩

/-- **A parsing of such a disk** is computed from the element trees of the texts. -/
lemma Readable.outcome_parse_eq (h : Readable folders texts) (paths : List Path) :
    ((ofTexts folders texts).parse paths).outcome =
      Assets.empty.addAll (paths.map ((ofTexts folders texts).readWith (treeIn texts))) := by
  rw [parse, outcome_parseInto]
  exact congrArg _ (List.map_congr_left fun path _ =>
    readPackage_eq_readWith (fun _ _ htree => h.readElement_eq htree) path)

/-- What is computed of what the texts come to is true of the parsing. -/
lemma Readable.exists_parse (h : Readable folders texts) {paths : List Path} {β : Type}
    {facts : Assets → β} {b : β}
    (hfacts : (Assets.empty.addAll (paths.map ((ofTexts folders texts).readWith
      (treeIn texts)))).toOption.map facts = some b) :
    ∃ a, ((ofTexts folders texts).parse paths).outcome = .ok a ∧ facts a = b := by
  obtain ⟨a, ha, hfacts⟩ := Option.map_eq_some_iff.mp hfacts
  rw [← h.outcome_parse_eq] at ha
  exact ⟨a, eq_ok_of_toOption_eq_some ha, hfacts⟩

end UiBinding.Disk
