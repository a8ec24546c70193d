/-
Discovery: the package folders of an assets directory.

They are the real folders in it whose names do not start with a point, in the order of their names.
So a disk is asked for nothing but what its places hold, and in which order its entries were made
shows nowhere: not in the packages that are found, nor in what is read, resolved and written.

* `mem_folderNames_iff` and `pairwise_folderNames`: which names a folder lists, and their order;
* `Disk.SameTree`: two disks whose places hold the same, and `SameTree.of_perm`;
* `follow_name` and `SameTree.follow_eq`: on two such disks a way leads to the same place, and what
  is read, found and resolved there is the same;
* `Outcome.Alike` and `SameTree.run`: two runs that come to the same;
* `discovered_by_name`: both, for every disk.
-/
import UiBinding.Proofs.Text.ByteOrder
import UiBinding.Proofs.Walk.Attribution
import UiBinding.Run

namespace UiBinding

namespace Disk

/-! ### Folder lists -/

/-- The names of the places directly in a folder. -/
lemma nameIn?_eq_some_iff {folder : Place} {e : Entry} {name : String} :
    nameIn? folder e = some name ↔ e.place = folder ++ [name] := by
  rw [nameIn?]
  constructor
  · intro h
    split at h
    · next hfolder => rw [← hfolder, List.dropLast_append_getLast? name h]
    · cases h
  · intro h
    rw [h, List.dropLast_concat, if_pos rfl, List.getLast?_concat]

/-- What an entry says is what its place holds. -/
lemma content?_concat_eq_some_iff {d : Disk} {folder : Place} {name : String} {content : Content} :
    d.content? (folder ++ [name]) = some content ↔
      (⟨folder ++ [name], content⟩ : Entry) ∈ d.entries.items := by
  rw [content?_of_ne_nil d (by simp), Option.map_eq_some_iff]
  constructor
  · rintro ⟨e, hfound, rfl⟩
    obtain ⟨hmem, hplace⟩ := Catalog.find?_eq_some_iff.mp hfound
    rwa [← hplace]
  · exact fun hmem => ⟨_, Catalog.find?_eq_some_iff.mpr ⟨hmem, rfl⟩, rfl⟩

/-- A folder lists a name exactly if a real folder stands under it. -/
lemma mem_folderNames_iff {d : Disk} {folder : Place} {name : String} :
    name ∈ d.folderNames folder ↔ d.content? (folder ++ [name]) = some .folder := by
  rw [folderNames, List.mem_mergeSort, List.mem_filterMap, content?_concat_eq_some_iff]
  constructor
  · rintro ⟨⟨place, content⟩, hmem, hname⟩
    obtain ⟨hmem, hfolder⟩ := List.mem_filter.mp hmem
    obtain rfl : place = folder ++ [name] := nameIn?_eq_some_iff.mp hname
    cases content with
    | folder => exact hmem
    | file bytes => cases hfolder
    | link target => cases hfolder
  · exact fun hmem => ⟨_, List.mem_filter.mpr ⟨hmem, rfl⟩, nameIn?_eq_some_iff.mpr rfl⟩

/-- A folder lists no name twice, as no two entries have the same place. -/
lemma nodup_folderNames (d : Disk) (folder : Place) : (d.folderNames folder).Nodup := by
  have hplaces : d.entries.items.Pairwise fun e f => e.place ≠ f.place :=
    List.pairwise_map.mp d.entries.distinct
  rw [folderNames, (List.mergeSort_perm _ _).nodup_iff]
  refine List.pairwise_filterMap.mpr ((hplaces.filter _).imp ?_)
  intro e f hplace name he other hf heq
  rw [nameIn?_eq_some_iff] at he hf
  exact hplace (by rw [he, hf, heq])

/-- The names that a folder lists ascend. -/
lemma pairwise_folderNames (d : Disk) (folder : Place) :
    (d.folderNames folder).Pairwise (· < ·) := by
  have hsorted : (d.folderNames folder).Pairwise (· ≤ ·) :=
    (List.pairwise_mergeSort (by simpa using fun _ _ _ => le_trans)
      (by simpa using le_total) _).imp of_decide_eq_true
  exact (hsorted.and (nodup_folderNames d folder)).imp fun h => lt_of_le_of_ne h.1 h.2

/-- **What is found** in an assets directory: the folders that it lists, without the hidden ones. -/
lemma packageFolders_of_find? {d : Disk} {assets : Path} {place : Place}
    (h : d.find? assets = some (place, .folder)) : d.packageFolders assets =
      .ok (((d.folderNames place).filter fun name => !isHidden name).map assets.join) := by
  rw [packageFolders, h]

/-! ### Disks with the same tree -/

/-- A part of a way that is a name, and not too long, leads to what the folder holds under it. -/
lemma follow_name {d : Disk} {creating : Bool} {links : ℕ} {here : Place} {part : String}
    {rest : List String} (hfolder : ¬ (!d.holdsFolder here) = true)
    (hstay : ¬ (part = "" ∨ part = ".")) (hup : ¬ part = "..")
    (hslash : ¬ (creating = true ∧ rest ≠ [] ∧ (rest.all fun name => decide (name = "")) = true))
    (hsize : ¬ nameLimit < part.utf8ByteSize) :
    d.follow creating links here (part :: rest) =
      match d.content? (here ++ [part]) with
      | none => if rest = [] then .ok (.absent (here ++ [part])) else .error .notFound
      | some (.link target) =>
        match links with
        | 0 => .error .tooManyLinks
        | links + 1 =>
          let start := if Path.isAbsolute ⟨target⟩ then [] else here
          d.follow creating links start (Path.parts ⟨target⟩ ++ rest)
      | some _ => d.follow creating links (here ++ [part]) rest := by
  rw [follow, if_neg hfolder, if_neg hstay, if_neg hup, if_neg hslash]
  exact if_neg hsize

/-- Two disks with the same tree: relative paths start at the same place, and every place holds the
same. -/
structure SameTree (d e : Disk) : Prop where
  workingFolder : d.workingFolder = e.workingFolder
  content?_eq : ∀ place, d.content? place = e.content? place

namespace SameTree

variable {d e : Disk}

/-- In which order the entries were made does not count. -/
lemma of_perm (hfolder : d.workingFolder = e.workingFolder)
    (hentries : d.entries.items.Perm e.entries.items) : d.SameTree e := by
  refine ⟨hfolder, fun place => ?_⟩
  cases place with
  | nil => rfl
  | cons name names =>
      rw [content?_of_ne_nil d (by simp), content?_of_ne_nil e (by simp),
        Catalog.perm_iff.mp hentries]

/-- If something is put at the same place, the trees stay the same. -/
lemma put (h : d.SameTree e) {place : Place} (hplace : place ≠ []) (content : Content) :
    (d.put place content).SameTree (e.put place content) := by
  refine ⟨h.workingFolder, fun other => ?_⟩
  rw [content?_put d hplace, content?_put e hplace, h.content?_eq]

section

variable (h : d.SameTree e)

include h

lemma holdsFolder_eq (place : Place) : d.holdsFolder place = e.holdsFolder place := by
  rw [holdsFolder, holdsFolder, h.content?_eq]

/-- **A way leads to the same place** on both disks: what counts is what the places on it hold. -/
lemma follow_eq (creating : Bool) (links : ℕ) (here : Place) (parts : List String) :
    d.follow creating links here parts = e.follow creating links here parts := by
  fun_induction d.follow creating links here parts with
  | case1 links here => rw [follow]
  | case2 links here part rest hfolder => rw [follow, ← h.holdsFolder_eq, if_pos hfolder]
  | case3 links here part rest hfolder hstay ih =>
      rw [follow, ← h.holdsFolder_eq, if_neg hfolder, if_pos hstay, ih]
  | case4 links here rest hfolder hstay ih =>
      rw [follow, ← h.holdsFolder_eq, if_neg hfolder, if_neg hstay, if_pos rfl, ih]
  | case5 links here part rest hfolder hstay hup hslash =>
      rw [follow, ← h.holdsFolder_eq, if_neg hfolder, if_neg hstay, if_neg hup, if_pos hslash]
  | case6 links here part rest hfolder hstay hup hslash hsize =>
      rw [follow, ← h.holdsFolder_eq, if_neg hfolder, if_neg hstay, if_neg hup, if_neg hslash,
        if_pos hsize]
  | case7 links here part hfolder hstay hup hsize hnone hslash =>
      rw [h.holdsFolder_eq] at hfolder
      rw [follow_name hfolder hstay hup hslash hsize, ← h.content?_eq, hnone]
      exact (if_pos rfl).symm
  | case8 links here part rest hfolder hstay hup hslash hsize hnone hrest =>
      rw [h.holdsFolder_eq] at hfolder
      rw [follow_name hfolder hstay hup hslash hsize, ← h.content?_eq, hnone]
      exact (if_neg hrest).symm
  | case9 here part rest hfolder hstay hup hslash hsize target hlink =>
      rw [h.holdsFolder_eq] at hfolder
      rw [follow_name hfolder hstay hup hslash hsize, ← h.content?_eq, hlink]
  | case10 here part rest hfolder hstay hup hslash hsize target hlink links start ih =>
      rw [h.holdsFolder_eq] at hfolder
      rw [follow_name hfolder hstay hup hslash hsize, ← h.content?_eq, hlink]
      exact ih
  | case11 links here part rest hfolder hstay hup hslash hsize content hnolink hthere ih =>
      rw [h.holdsFolder_eq] at hfolder
      rw [follow_name hfolder hstay hup hslash hsize, ← h.content?_eq, hthere]
      cases content with
      | link target => exact absurd rfl (hnolink target)
      | file bytes => exact ih
      | folder => exact ih

/-- A path leads to the same place on both disks. -/
lemma locate_eq (path : Path) (creating : Bool) :
    d.locate path creating = e.locate path creating := by
  simp only [locate, h.workingFolder, h.follow_eq]

lemma find?_eq (path : Path) : d.find? path = e.find? path := by
  simp only [find?, h.locate_eq, h.content?_eq]

lemma isFile_eq (path : Path) : d.isFile path = e.isFile path := by
  rw [isFile, isFile, h.find?_eq]

lemma readText_eq (path : Path) : d.readText path = e.readText path := by
  simp only [readText, h.locate_eq, h.content?_eq]

lemma readElement_eq (path : Path) : d.readElement path = e.readElement path := by
  rw [readElement, readElement, h.readText_eq]

/-- A folder lists the same names in the same order. -/
lemma folderNames_eq (folder : Place) : d.folderNames folder = e.folderNames folder := by
  have hd := pairwise_folderNames d folder
  refine hd.eq_of_mem_iff (pairwise_folderNames e folder) fun name => ?_
  rw [mem_folderNames_iff, mem_folderNames_iff, h.content?_eq]

/-- The same packages are found in the same order. -/
lemma packageFolders_eq (assets : Path) : d.packageFolders assets = e.packageFolders assets := by
  simp only [packageFolders, h.find?_eq, h.folderNames_eq]

lemma readComponent_eq (package : Package) (entry : Package.Entry) :
    d.readComponent package entry = e.readComponent package entry := by
  rw [readComponent, readComponent, h.readElement_eq]

/-- A package folder is read as the same. -/
lemma readPackage_eq (folder : Path) : d.readPackage folder = e.readPackage folder := by
  have hcomponent := funext fun package => funext (h.readComponent_eq package)
  simp only [readPackage, h.isFile_eq, h.readElement_eq, hcomponent]

lemma parseInto_eq (a : Assets) (folders : List Path) :
    d.parseInto a folders = e.parseInto a folders := by
  induction folders generalizing a with
  | nil => rfl
  | cons folder rest ih => simp only [parseInto, h.readPackage_eq, ih]

/-- A list of folders is parsed to the same. -/
lemma parse_eq (folders : List Path) : d.parse folders = e.parse folders :=
  h.parseInto_eq .empty folders

lemma fileIn?_eq (assets : Path) : Config.fileIn? d assets = Config.fileIn? e assets := by
  simp only [Config.fileIn?, h.isFile_eq]

lemma load_eq (assets : Path) (given : Option Path) :
    Config.load d assets given = Config.load e assets given := by
  simp only [Config.load, Config.ofFile, h.fileIn?_eq, h.isFile_eq, h.readText_eq]

lemma start_eq (assets : Path) (given : Option Path) (includeDefaultNames : Bool) :
    Session.start d assets given includeDefaultNames =
      Session.start e assets given includeDefaultNames := by
  rw [Session.start, Session.start, h.load_eq]

lemma sessionParse_eq (s : Session) : s.parse d = s.parse e := by
  rw [Session.parse, Session.parse, h.packageFolders_eq, funext h.parse_eq]

/-- Resolving comes to the same. -/
lemma resolve_eq (s : Session) : s.resolve d = s.resolve e := by
  rw [Session.resolve, Session.resolve, h.sessionParse_eq]

lemma resolveLog_eq (s : Session) : s.resolveLog d = s.resolveLog e := by
  rw [Session.resolveLog, Session.resolveLog, h.sessionParse_eq]

lemma startLog_eq (assets : Path) (given : Option Path) (session : Except Diagnostic Session) :
    Session.startLog d assets given session = Session.startLog e assets given session := by
  simp only [Session.startLog, h.fileIn?_eq]

lemma target_eq (path : Path) : d.target path = e.target path := by
  simp only [target, h.locate_eq, h.content?_eq]

end

end SameTree

end Disk

/-! ### Runs -/

/-- Two runs come to the same: they end alike and write the same, and leave disks with the same
tree. -/
structure Outcome.Alike (o p : Outcome) : Prop where
  result : o.result = p.result
  output : o.output = p.output
  messages : o.messages = p.messages
  disk : o.disk.SameTree p.disk

namespace Disk.SameTree

variable {d e : Disk} (h : d.SameTree e)

include h

/-- A report is written into the same file. -/
lemma writeReport (r : Resolution) (report : String) (path : Path) (json styled : Bool) :
    (r.writeReport d report path json styled).Alike (r.writeReport e report path json styled) := by
  rw [Resolution.writeReport, Resolution.writeReport, writeText, writeText, writeBytes, writeBytes,
    h.target_eq]
  cases htarget : e.target path with
  | error fault => exact ⟨rfl, rfl, rfl, h⟩
  | ok place => exact ⟨rfl, rfl, rfl, h.put (ne_nil_of_target_eq_ok htarget) _⟩

lemma perform (r : Resolution) (config : Config) (styled : Bool) (task : AssetTask) :
    (r.perform d config styled task).Alike (r.perform e config styled task) := by
  cases task with
  | resolve json output =>
      cases output with
      | some path => exact h.writeReport r _ path json styled
      | none => cases json <;> exact ⟨rfl, rfl, rfl, h⟩
  | list detailed => exact ⟨rfl, rfl, rfl, h⟩
  | panels package => exact ⟨rfl, rfl, rfl, h⟩

lemma runOnAssets (c : CommandLine) (task : AssetTask) (styled : Bool) :
    (c.runOnAssets task d styled).Alike (c.runOnAssets task e styled) := by
  simp only [CommandLine.runOnAssets, h.start_eq, h.startLog_eq, h.resolveLog_eq, h.resolve_eq]
  cases Session.start e c.assets c.config c.includeDefaultNames with
  | error problem => exact ⟨rfl, rfl, rfl, h⟩
  | ok session =>
      dsimp only
      cases session.resolve e with
      | error problem => exact ⟨rfl, rfl, rfl, h⟩
      | ok resolution =>
          have hperform := h.perform resolution session.config styled task
          exact ⟨hperform.result, hperform.output, congrArg (_ ++ ·) hperform.messages,
            hperform.disk⟩

/-- **A command line comes to the same** on two disks with the same tree. -/
lemma run (c : CommandLine) (styled : Bool) (build : Build) :
    (c.run d styled build).Alike (c.run e styled build) := by
  rw [CommandLine.run, CommandLine.run]
  split
  · exact ⟨rfl, rfl, rfl, h⟩
  · split <;> exact ⟨rfl, rfl, rfl, h⟩
  · exact h.runOnAssets c _ styled

end Disk.SameTree

namespace Disk

/-- **Packages are discovered by name**: in an assets directory, every real folder whose name does
not start with a point is found, and nothing else, each once and in the order of the bytes of the
names.  So two disks with the same tree, whatever the order in which their entries were made, come
to the same: in discovery, parsing and resolution, and in all that a command line writes. -/
theorem discovered_by_name :
    (∀ (d : Disk) (assets : Path) (place : Place), d.find? assets = some (place, .folder) →
      ∃ names : List String, d.packageFolders assets = .ok (names.map assets.join) ∧
        (∀ name, name ∈ names ↔
          d.content? (place ++ [name]) = some .folder ∧ name.toList.head? ≠ some '.') ∧
        names.Pairwise fun a b => Text.bytes a < Text.bytes b) ∧
    ∀ d e : Disk, d.SameTree e →
      (∀ assets, d.packageFolders assets = e.packageFolders assets) ∧
      (∀ folders, d.parse folders = e.parse folders) ∧
      (∀ s : Session, s.resolve d = s.resolve e) ∧
      ∀ (c : CommandLine) (styled : Bool) (build : Build),
        (c.run d styled build).Alike (c.run e styled build) := by
  constructor
  · intro d assets place hfind
    refine ⟨_, packageFolders_of_find? hfind, fun name => ?_, ?_⟩
    · rw [List.mem_filter, mem_folderNames_iff, isHidden, Bool.not_eq_true',
        decide_eq_false_iff_not]
    · exact ((pairwise_folderNames d place).filter _).imp Text.bytes_lt_bytes_iff.mpr
  · intro d e h
    exact ⟨h.packageFolders_eq, h.parse_eq, h.resolve_eq, h.run⟩

/-- An assets directory with three packages, a hidden folder, a link to a folder and a file. -/
def mixed : Disk where
  entries := .ofList [⟨["ui"], .folder⟩, ⟨["ui", "zeta"], .folder⟩, ⟨["ui", "Äther"], .folder⟩,
    ⟨["ui", ".git"], .folder⟩, ⟨["ui", "Alias"], .link "zeta"⟩, ⟨["ui", "Beta"], .folder⟩,
    ⟨["ui", "Notes"], .file "".toUTF8⟩]
  workingFolder := []

/-- A disk with its entries in the opposite order. -/
def turned (d : Disk) : Disk where
  entries :=
    ⟨d.entries.items.reverse, by
      rw [List.map_reverse, List.nodup_reverse]
      exact d.entries.distinct⟩
  workingFolder := d.workingFolder

lemma sameTree_turned (d : Disk) : d.SameTree d.turned :=
  .of_perm rfl (List.reverse_perm _).symm

/-- The assets directory is there. -/
lemma find?_mixed : mixed.find? ⟨"ui"⟩ = some (["ui"], .folder) := by
  have hplain : mixed.IsPlain ⟨"ui"⟩ := by decide +kernel
  have hplace : mixed.locate ⟨"ui"⟩ = .ok (.present ["ui"]) :=
    (hplain.locate_eq false).trans (by decide +kernel)
  rw [find?, hplace]
  rfl

/-- The three packages are found and nothing else, the one whose name starts with a letter beyond
ASCII last.  And two packages, one of which leads to the root panel of the other, are found, read
and resolved to the same if the disk lists its entries the other way round. -/
theorem discovered_by_name_mixed :
    (mixed.find? ⟨"ui"⟩ = some (["ui"], .folder) ∧
      ∃ names : List String, mixed.packageFolders ⟨"ui"⟩ = .ok (names.map (Path.join ⟨"ui"⟩)) ∧
        (∀ name ∈ ["Beta", "zeta", "Äther"], name ∈ names) ∧
        (∀ name ∈ [".git", "Alias", "Notes"], name ∉ names) ∧
        names.Pairwise fun a b => Text.bytes a < Text.bytes b) ∧
    nested.SameTree nested.turned ∧
      nested.turned.packageFolders ⟨"ui"⟩ = .ok [⟨"ui/Beta"⟩, ⟨"ui/Zeta"⟩] ∧
      (∃ resolution, (Session.mk ⟨"ui"⟩ {}).resolve nested.turned = .ok resolution ∧
        ∃ s ∈ resolution.walk.subPanels, s.component = ⟨"pb", "b0"⟩) ∧
      ∀ (c : CommandLine) (styled : Bool) (build : Build),
        (c.run nested styled build).Alike (c.run nested.turned styled build) := by
  obtain ⟨hexact, hsame⟩ := discovered_by_name
  obtain ⟨names, hfound, hmem, hascend⟩ := hexact mixed ⟨"ui"⟩ ["ui"] find?_mixed
  obtain ⟨hfolders, -, hresolved, hruns⟩ := hsame nested nested.turned (sameTree_turned nested)
  have hreal : ∀ name ∈ ["Beta", "zeta", "Äther"],
      mixed.holdsFolder ["ui", name] = true ∧ name.toList.head? ≠ some '.' := by decide +kernel
  have hother : ∀ name ∈ [".git", "Alias", "Notes"],
      ¬ (mixed.holdsFolder ["ui", name] = true ∧ name.toList.head? ≠ some '.') := by decide +kernel
  simp only [holdsFolder_iff] at hreal hother
  refine ⟨⟨find?_mixed, names, hfound, fun name h => (hmem name).mpr (hreal name h),
    fun name h hname => hother name h ((hmem name).mp hname), hascend⟩, sameTree_turned nested, ?_,
    ?_, hruns⟩
  · rw [← hfolders, packageFolders_nested]
  · rw [← hresolved]
    exact resolve_nested

end Disk

end UiBinding
