/-
Isolation: a problem that does not end a parsing leaves no trace but its warning.

Two parsings are compared: one that meets a problem, and one in which the folder or the entry that
has the problem is left out.  Until the problem is met they are the same; from there on they
register the same, and one of them has a warning more.

* `AgreeUpTo`: two outcomes with one error, or with related results;
* `Assets.addAll`: what adding folders leads to, as a function of what they turned out to be;
* `Assets.OneWarningMore`: what two parsings have read is the same apart from one warning, and apart
  from a change to a registered package;
* `OneWarningMore.add` is one step, `OneWarningMore.addAll` the rest of a run;
* `isolated_parse`: folders that are passed over, and component files that cannot be read.
-/
import UiBinding.Proofs.Assets.Outcome

namespace UiBinding

/-! ### Outcomes that agree -/

/-- Two outcomes fail with the same error, or both give results, which are related. -/
inductive AgreeUpTo {α : Type} (related : α → α → Prop) :
    Except Diagnostic α → Except Diagnostic α → Prop
  | error (problem : Diagnostic) : AgreeUpTo related (.error problem) (.error problem)
  | ok {a b : α} (h : related a b) : AgreeUpTo related (.ok a) (.ok b)

namespace AgreeUpTo

variable {α : Type} {related related' : α → α → Prop} {x y : Except Diagnostic α}
  {f g : α → Except Diagnostic α}

/-- Outcomes that agree still agree after going on from related results. -/
lemma bind (h : AgreeUpTo related x y)
    (hfg : ∀ a b, related a b → AgreeUpTo related' (f a) (g b)) :
    AgreeUpTo related' (x >>= f) (y >>= g) := by
  cases h with
  | error problem => exact .error problem
  | ok hab => exact hfg _ _ hab

/-- If one of the outcomes is a result, so is the other. -/
lemma exists_related (h : AgreeUpTo related x y) (hok : (∃ a, x = .ok a) ∨ ∃ b, y = .ok b) :
    ∃ a b, x = .ok a ∧ y = .ok b ∧ related a b := by
  cases h with
  | error problem => rcases hok with ⟨_, hok⟩ | ⟨_, hok⟩ <;> cases hok
  | ok hab => exact ⟨_, _, rfl, rfl, hab⟩

/-- What is gone on to from one result agrees if it does so for each possible result. -/
lemma bind_same (hfg : ∀ a, x = .ok a → AgreeUpTo related (f a) (g a)) :
    AgreeUpTo related (x >>= f) (x >>= g) := by
  cases x with
  | error problem => exact .error problem
  | ok a => exact hfg a rfl

end AgreeUpTo

/-! ### Adding folders -/

namespace PackageFolder

variable {known : List Package} {folder : PackageFolder}

/-- The package of a folder that does not end a parsing is new. -/
lemma new_of_not_ends (h : ∀ problem, ¬ folder.Ends known problem) :
    ∀ p ∈ folder.packages, ∀ earlier ∈ known, earlier.id ≠ p.id :=
  fun p hp earlier hearlier hid => h _ (Or.inr ⟨p, hp, earlier, hearlier, hid, rfl⟩)

/-- Whether a folder ends a parsing depends only on the identifiers and places of the packages. -/
lemma ends_map_iff {change : Package → Package}
    (hchange : ∀ p, (change p).id = p.id ∧ (change p).path = p.path) {problem : Diagnostic} :
    folder.Ends (known.map change) problem ↔ folder.Ends known problem := by
  simp only [Ends, List.mem_map, exists_exists_and_eq_and, hchange]

end PackageFolder

namespace Assets

variable {a b : Assets} {folder : PackageFolder}

/-- Two folders that end a parsing for the same problems are added alike if entering them is. -/
lemma agree_add {related : Assets → Assets → Prop} {folder' : PackageFolder}
    (hends : ∀ problem, folder.Ends a.registry.packages.items problem ↔
      folder'.Ends b.registry.packages.items problem)
    (henter : (∀ problem, ¬ folder.Ends a.registry.packages.items problem) →
      (∀ problem, ¬ folder'.Ends b.registry.packages.items problem) →
        related (a.enter folder) (b.enter folder')) :
    AgreeUpTo related (a.add folder) (b.add folder') := by
  by_cases hstop : ∃ problem, folder.Ends a.registry.packages.items problem
  · obtain ⟨problem, hproblem⟩ := hstop
    rw [add_eq_error_iff.mpr hproblem, add_eq_error_iff.mpr ((hends problem).mp hproblem)]
    exact .error problem
  · have ha := not_exists.mp hstop
    have hb := fun problem hproblem => ha problem ((hends problem).mpr hproblem)
    rw [add_eq_enter ha, add_eq_enter hb]
    exact .ok (henter ha hb)

/-- Adds folders one after the other. -/
def addAll (a : Assets) (folders : List PackageFolder) : Except Diagnostic Assets :=
  folders.foldlM add a

lemma addAll_cons (folders : List PackageFolder) :
    a.addAll (folder :: folders) = a.add folder >>= fun b => b.addAll folders :=
  List.foldlM_cons

lemma addAll_append (folders later : List PackageFolder) :
    a.addAll (folders ++ later) = a.addAll folders >>= fun b => b.addAll later :=
  List.foldlM_append

end Assets

/-- **The outcome of a parsing** is that of adding what its folders turn out to be. -/
lemma Disk.outcome_parseInto (d : Disk) (a : Assets) (folders : List Path) :
    (d.parseInto a folders).outcome = a.addAll (folders.map d.readPackage) := by
  induction folders generalizing a with
  | nil => rfl
  | cons folder rest ih =>
      rw [outcome_parseInto_cons, List.map_cons, Assets.addAll_cons]
      simp only [ih]
      rfl

/-! ### One warning more -/

/-- What two parsings have read is the same, apart from a warning that the second one does not have:
`place` are the warnings before it.  A change was made to packages that are registered. -/
structure Assets.OneWarningMore (place : List Diagnostic) (problem : Diagnostic)
    (change : Package → Package) (a b : Assets) : Prop where
  packages : b.registry.packages.items = a.registry.packages.items.map change
  components : b.registry.components = a.registry.components
  requests : b.requests = a.requests
  warnings : ∃ later, a.registry.warnings = place ++ problem :: later ∧
    b.registry.warnings = place ++ later
  registered : ∀ p, (∀ earlier ∈ a.registry.packages.items, earlier.id ≠ p.id) → change p = p

namespace Assets.OneWarningMore

variable {place : List Diagnostic} {problem : Diagnostic} {change : Package → Package}
  {a b : Assets}

/-- Entering the same folder keeps the relation. -/
lemma enter (h : OneWarningMore place problem change a b) {folder : PackageFolder}
    (ha : ∀ problem, ¬ folder.Ends a.registry.packages.items problem)
    (hb : ∀ problem, ¬ folder.Ends b.registry.packages.items problem) :
    OneWarningMore place problem change (a.enter folder) (b.enter folder) := by
  obtain ⟨later, hwarnings, hwarnings'⟩ := h.warnings
  have hnew : folder.packages.map change = folder.packages := by
    refine (List.map_congr_left fun p hp => ?_).trans (List.map_id _)
    exact h.registered p (PackageFolder.new_of_not_ends ha p hp)
  refine ⟨?_, ?_, ?_, ⟨later ++ folder.problems, ?_, ?_⟩, fun p hp => ?_⟩
  · rw [packages_enter ha, packages_enter hb, h.packages, List.map_append, hnew]
  · simp only [Assets.enter, h.components]
  · simp only [Assets.enter, h.requests]
  · simp [Assets.enter, hwarnings]
  · simp [Assets.enter, hwarnings']
  · refine h.registered p fun earlier hearlier => hp earlier ?_
    rw [packages_enter ha]
    exact List.mem_append_left _ hearlier

variable (hchange : ∀ p, (change p).id = p.id ∧ (change p).path = p.path)

include hchange

/-- **One step**: adding the same folder keeps the relation, or fails in the same way. -/
lemma add (h : OneWarningMore place problem change a b) (folder : PackageFolder) :
    AgreeUpTo (OneWarningMore place problem change) (a.add folder) (b.add folder) := by
  refine agree_add (fun other => ?_) h.enter
  rw [h.packages, PackageFolder.ends_map_iff hchange]

/-- **The rest of a run** keeps the relation, or fails in the same way. -/
lemma addAll (h : OneWarningMore place problem change a b) (folders : List PackageFolder) :
    AgreeUpTo (OneWarningMore place problem change) (a.addAll folders) (b.addAll folders) := by
  induction folders generalizing a b with
  | nil => exact .ok h
  | cons folder rest ih =>
      rw [addAll_cons, addAll_cons]
      exact (h.add hchange folder).bind fun _ _ hnext => ih hnext

end Assets.OneWarningMore

/-! ### Leaving out an entry -/

namespace Package

/-- A package without the entry that has a file name. -/
def without (p : Package) (fileName : String) : Package :=
  { p with
    entries :=
      { items := p.entries.items.filter fun entry => entry.fileName ≠ fileName
        distinct := p.entries.distinct.sublist (List.filter_sublist.map _) } }

/-- Leaves an entry out of the package with an identifier. -/
def leaveOut (packageId fileName : String) (p : Package) : Package :=
  if p.id = packageId then p.without fileName else p

lemma leaveOut_keeps (packageId fileName : String) (p : Package) :
    (leaveOut packageId fileName p).id = p.id ∧ (leaveOut packageId fileName p).path = p.path := by
  rw [leaveOut]
  split <;> exact ⟨rfl, rfl⟩

/-- File names are different, so no other entry is left out. -/
lemma items_without {p : Package} {listed unlisted : List Entry} {entry : Entry}
    (h : p.entries.items = listed ++ entry :: unlisted) :
    (p.without entry.fileName).entries.items = listed ++ unlisted := by
  have hdistinct := p.entries.distinct
  rw [h, List.map_append, List.map_cons, List.nodup_middle, List.nodup_cons, List.mem_append,
    not_or] at hdistinct
  obtain ⟨⟨hlisted, hunlisted⟩, -⟩ := hdistinct
  have hother : ∀ entries : List Entry, entry.fileName ∉ entries.map Entry.fileName →
      (entries.filter fun other => other.fileName ≠ entry.fileName) = entries := by
    intro entries hnot
    refine List.filter_eq_self.mpr fun other hmem => decide_eq_true fun heq => hnot ?_
    exact heq ▸ List.mem_map_of_mem hmem
  calc (p.without entry.fileName).entries.items
      = p.entries.items.filter fun other => other.fileName ≠ entry.fileName := rfl
    _ = listed ++ unlisted := by
        rw [h, List.filter_append, List.filter_cons_of_neg (by simp), hother _ hlisted,
          hother _ hunlisted]

end Package

namespace Disk

variable (d : Disk)

/-- What becomes of a folder whose manifest declares a package. -/
def readEntries (p : Package) : PackageFolder :=
  .accepted p (p.entries.items.map (d.readComponent p))

/-- The problems with the files of entries, in order. -/
def entryProblems (p : Package) (entries : List Package.Entry) : List Diagnostic :=
  entries.flatMap fun entry => (d.readComponent p entry).problems

/-- The problems with folders, in order. -/
def folderProblems (folders : List Path) : List Diagnostic :=
  folders.flatMap fun folder => (d.readPackage folder).problems

variable {d}

lemma readPackage_of_package? {folder : Path} {p : Package} (h : d.package? folder = some p) :
    d.readPackage folder = d.readEntries p := by
  obtain ⟨files, hread⟩ := package?_eq_some_iff.mp h
  rw [hread, (readPackage_eq_accepted_iff.mp hread).2.2, readEntries]

/-- Without an entry whose file cannot be read, a package has the same components and requests, and
one problem less. -/
lemma readEntries_without {p : Package} {listed unlisted : List Package.Entry}
    {entry : Package.Entry} (hentries : p.entries.items = listed ++ entry :: unlisted)
    {problem : Diagnostic} (hproblem : d.readComponent p entry = .unreadable problem) :
    (d.readEntries (p.without entry.fileName)).components = (d.readEntries p).components ∧
    (d.readEntries (p.without entry.fileName)).requests = (d.readEntries p).requests ∧
    (d.readEntries p).problems =
      d.entryProblems p listed ++ problem :: d.entryProblems p unlisted ∧
    (d.readEntries (p.without entry.fileName)).problems =
      d.entryProblems p listed ++ d.entryProblems p unlisted := by
  -- reading a file does not depend on the other entries of the package
  have hwithout : d.readEntries (p.without entry.fileName) =
      .accepted (p.without entry.fileName) ((listed ++ unlisted).map (d.readComponent p)) := by
    rw [← Package.items_without hentries]
    rfl
  have hwith : d.readEntries p = .accepted p (listed.map (d.readComponent p) ++
      .unreadable problem :: unlisted.map (d.readComponent p)) := by
    rw [readEntries, hentries, List.map_append, List.map_cons, hproblem]
  rw [hwithout, hwith]
  refine ⟨?_, ?_, ?_, ?_⟩
  · simp only [PackageFolder.components, List.map_append, List.filterMap_append,
      List.filterMap_cons, ComponentFile.component?]
  · simp only [PackageFolder.requests, List.map_append, List.flatMap_append, List.flatMap_cons,
      ComponentFile.requests, List.nil_append]
  · simp only [PackageFolder.problems, List.flatMap_append, List.flatMap_cons, List.flatMap_map,
      ComponentFile.problems, List.singleton_append, entryProblems]
  · simp only [PackageFolder.problems, List.flatMap_append, List.flatMap_map, entryProblems]

end Disk

namespace Assets

variable {d : Disk} {a : Assets}

/-- A package with a file that cannot be read is added like the package without the entry, apart
from the warning. -/
lemma add_readEntries_without {p : Package} {listed unlisted : List Package.Entry}
    {entry : Package.Entry} (hentries : p.entries.items = listed ++ entry :: unlisted)
    {problem : Diagnostic} (hproblem : d.readComponent p entry = .unreadable problem) :
    AgreeUpTo
      (OneWarningMore (a.registry.warnings ++ d.entryProblems p listed) problem
        (Package.leaveOut p.id entry.fileName))
      (a.add (d.readEntries p)) (a.add (d.readEntries (p.without entry.fileName))) := by
  obtain ⟨hcomponents, hrequests, hproblems, hproblems'⟩ :=
    Disk.readEntries_without hentries hproblem
  refine agree_add (fun other => ?_) fun ha hb => ?_
  · simp only [PackageFolder.Ends, Disk.readEntries, PackageFolder.packages, List.mem_singleton,
      exists_eq_left, reduceCtorEq, false_or]
    rfl
  have hnew := PackageFolder.new_of_not_ends ha p (List.mem_singleton_self p)
  have hold : a.registry.packages.items.map (Package.leaveOut p.id entry.fileName) =
      a.registry.packages.items :=
    (List.map_congr_left fun q hq => if_neg (hnew q hq)).trans (List.map_id _)
  have hleft : Package.leaveOut p.id entry.fileName p = p.without entry.fileName := if_pos rfl
  refine ⟨?_, ?_, ?_, ⟨d.entryProblems p unlisted, ?_, ?_⟩, fun q hq => if_neg fun hid => ?_⟩
  · rw [packages_enter ha, packages_enter hb, List.map_append, hold]
    simp only [Disk.readEntries, PackageFolder.packages, List.map_singleton, hleft]
  · simp only [enter, hcomponents]
  · simp only [enter, hrequests]
  · simp only [enter, hproblems, List.append_assoc]
  · simp only [enter, hproblems', List.append_assoc]
  · refine hq p ?_ hid.symm
    rw [packages_enter ha]
    exact List.mem_append_right _ (List.mem_singleton_self p)

/-- A folder that is skipped is added like no folder, apart from the warning. -/
lemma add_skipped (problem : Diagnostic) : ∃ b, a.add (.skipped problem) = .ok b ∧
    OneWarningMore a.registry.warnings problem id b a := by
  have hends : ∀ other,
      ¬ PackageFolder.Ends a.registry.packages.items (.skipped problem) other := by
    simp [PackageFolder.Ends, PackageFolder.packages]
  refine ⟨_, add_eq_enter hends, ⟨?_, rfl, rfl, ⟨[], rfl, (List.append_nil _).symm⟩,
    fun _ _ => rfl⟩⟩
  rw [List.map_id]
  rfl

end Assets

/-! ### Isolation -/

namespace Disk

variable (d : Disk) (before after : List Path) (folder : Path)

/-- **Failures are isolated.**  A folder that is passed over is parsed as if it were not listed, and
an entry whose file cannot be read as if the manifest did not list it: in the end the same is read,
or the same error is met, and there is one warning more, which says what was left out and stands
where it was met. -/
theorem isolated_parse :
    (∀ problem, d.PassesOver folder problem →
      AgreeUpTo (Assets.OneWarningMore (d.folderProblems before) problem id)
        (d.parse (before ++ folder :: after)).outcome
        (d.parse (before ++ after)).outcome) ∧
    (∀ p listed entry unlisted reason, d.package? folder = some p →
      p.entries.items = listed ++ entry :: unlisted → d.readElement entry.path = .error reason →
      AgreeUpTo
        (Assets.OneWarningMore (d.folderProblems before ++ d.entryProblems p listed)
          (.unreadableComponent entry.path.text reason) (Package.leaveOut p.id entry.fileName))
        (d.parse (before ++ folder :: after)).outcome
        (Assets.empty.addAll (before.map d.readPackage ++
          d.readEntries (p.without entry.fileName) :: after.map d.readPackage))) := by
  have hwarnings : ∀ a, Assets.empty.addAll (before.map d.readPackage) = .ok a →
      a.registry.warnings = d.folderProblems before := by
    intro a ha
    rw [← outcome_parseInto] at ha
    rw [(gathers_of_parseInto ha).warnings, List.flatMap_map]
    rfl
  simp only [parse, outcome_parseInto, List.map_append, List.map_cons, Assets.addAll_append]
  constructor
  · intro problem hpasses
    rw [readPackage_eq_skipped_iff.mpr hpasses]
    refine .bind_same fun a ha => ?_
    obtain ⟨b, hadd, h⟩ := a.add_skipped problem
    rw [Assets.addAll_cons, hadd, ← hwarnings a ha]
    exact h.addAll (fun _ => ⟨rfl, rfl⟩) _
  · intro p listed entry unlisted reason hpackage hentries hread
    rw [readPackage_of_package? hpackage]
    refine .bind_same fun a ha => ?_
    rw [← hwarnings a ha, Assets.addAll_cons, Assets.addAll_cons]
    have hproblem : d.readComponent p entry =
        .unreadable (.unreadableComponent entry.path.text reason) := by
      rw [readComponent, hread]
    refine (Assets.add_readEntries_without hentries hproblem).bind fun b b' h => ?_
    exact h.addAll (Package.leaveOut_keeps _ _) _

/-- The crowded manifest over component files that are empty, so that no component can be read. -/
def hollow : Disk := packaged crowdedManifest ""

/-- There is no second folder beside the package. -/
lemma isFile_hollow : hollow.isFile ⟨"B/package.xml"⟩ = false := by
  have hlocate : hollow.locate ⟨"B/package.xml"⟩ = .error .notFound := by
    have hpath : Path.parts ⟨"B/package.xml"⟩ = ["B", "package.xml"] ∧
        Path.isAbsolute ⟨"B/package.xml"⟩ = false ∧
        "B/package.xml".toList.contains '\x00' = false ∧
        ¬ pathLimit < "B/package.xml".utf8ByteSize ∧ ¬ nameLimit < "B".utf8ByteSize := by
      decide +kernel
    obtain ⟨hparts, habsolute, hzero, hsize, hname⟩ := hpath
    rw [locate, hzero, if_neg (by simp), if_neg (by simp), if_neg hsize, habsolute, hparts]
    simp [follow, hollow, packaged, holdsFolder, content?, Catalog.ofList, Catalog.find?_insert,
      Content.isFolder, hname]
    rfl
  rw [isFile, find?, hlocate]

/-- A folder without a manifest stands before a package whose files cannot be read.  The folder and
the first file leave a warning each, and nothing else. -/
theorem isolated_parse_hollow :
    ∃ p first second reason a b c, hollow.PassesOver ⟨"B"⟩ (.missingManifest "B/package.xml") ∧
      hollow.package? ⟨"A"⟩ = some p ∧ p.entries.items = [] ++ first :: [second] ∧
      hollow.readElement first.path = .error reason ∧
      (hollow.parse [⟨"B"⟩, ⟨"A"⟩]).outcome = .ok a ∧ (hollow.parse [⟨"A"⟩]).outcome = .ok b ∧
      Assets.empty.addAll [hollow.readEntries (p.without first.fileName)] = .ok c ∧
      Assets.OneWarningMore [] (.missingManifest "B/package.xml") id a b ∧
      Assets.OneWarningMore [] (.unreadableComponent first.path.text reason)
        (Package.leaveOut p.id first.fileName) b c := by
  obtain ⟨p, hread, hentries⟩ := readPackage_packaged ""
  have hpackage : hollow.package? ⟨"A"⟩ = some p := package?_eq_some_iff.mpr ⟨_, hread⟩
  have hpasses : hollow.PassesOver ⟨"B"⟩ (.missingManifest "B/package.xml") :=
    .missing isFile_hollow
  have hfile : hollow.readElement ⟨"A/y/M"⟩ = .error Xml.malformed := by
    obtain ⟨-, -, htext, -⟩ := readText_packaged crowdedManifest ""
    have hempty : (Xml.Element.read? "").isNone = true := by decide +kernel
    rw [readElement, hollow, htext]
    simp only [Option.isNone_iff_eq_none.mp hempty]
  obtain ⟨hfolder, -⟩ := hollow.isolated_parse [] [⟨"A"⟩] ⟨"B"⟩
  obtain ⟨-, hentry⟩ := hollow.isolated_parse [] [] ⟨"A"⟩
  obtain ⟨b, hparse, -⟩ := parse_singleton hread
  obtain ⟨a, b, ha, hb, hab⟩ := (hfolder _ hpasses).exists_related (Or.inr ⟨b, hparse⟩)
  obtain ⟨b', c, hb', hc, hbc⟩ :=
    (hentry p [] _ _ _ hpackage hentries hfile).exists_related (Or.inl ⟨b, hb⟩)
  cases hb.symm.trans hb'
  exact ⟨p, _, _, _, a, b, c, hpasses, hpackage, hentries, hfile, ha, hb, hc, hab, hbc⟩

end Disk

end UiBinding
