/-
Declared components: what becomes of the components that a manifest lists.

A component passes two tables on its way into the registry.  The package lists each file name once,
so of several components with one file name the last is left; the registry holds each identifier of
a package once, so of several listed components with one identifier the last that can be read is
found.  Nothing else is lost without a warning.

* `Registry.KeepsOrReports` is what becomes of a listed component;
* `declared_kept_or_reported`: it becomes of every component that is the last with its file name;
* `declared_lost`: a manifest whose first component is lost, and whose second one is displaced.
-/
import UiBinding.Proofs.Assets.Registration

namespace UiBinding

/-! ### Of one package -/

/-- Among the values of a list that have a property, the last one comes from a given item with such
a value or from a later item. -/
lemma exists_find?_reverse_filterMap {α β : Type} (f : α → Option β) (has : β → Bool)
    (before after : List α) {a : α} {b : β} (hvalue : f a = some b) (hhas : has b = true) :
    ∃ other ∈ a :: after, ∃ c, f other = some c ∧ has c = true ∧
      ((before ++ a :: after).filterMap f).reverse.find? has = some c := by
  have hsplit : ((before ++ a :: after).filterMap f).reverse =
      (after.filterMap f).reverse ++ b :: (before.filterMap f).reverse := by
    rw [List.filterMap_append, List.filterMap_cons_some hvalue, List.reverse_append,
      List.reverse_cons, List.append_assoc, List.singleton_append]
  rw [hsplit, List.find?_append]
  cases hlater : (after.filterMap f).reverse.find? has with
  | none => exact ⟨a, List.mem_cons_self, b, hvalue, hhas, by simp [hhas]⟩
  | some c =>
      have hmem := List.mem_reverse.mp (List.mem_of_find?_eq_some hlater)
      obtain ⟨other, hother, hc⟩ := List.mem_filterMap.mp hmem
      exact ⟨other, List.mem_cons_of_mem _ hother, c, hc, List.find?_some hlater, rfl⟩

/-- What becomes of a component that a package lists.  Either its file cannot be read, and that is
reported, or a component is registered under its identifier: itself, or one that is listed after it
under the same identifier. -/
def Registry.KeepsOrReports (r : Registry) (d : Disk) (p : Package) (entry : Package.Entry) :
    Prop :=
  (∃ reason, d.readElement entry.path = .error reason ∧
    .unreadableComponent entry.path.text reason ∈ r.warnings) ∨
  ∃ c other, r.component? ⟨p.id, entry.id⟩ = some c ∧ c.fileName = other.fileName ∧
    other.id = entry.id ∧ (∃ tree, d.readElement other.path = .ok tree) ∧
    (other = entry ∨ [entry, other].Sublist p.entries.items)

namespace Registry.Holds

variable {d : Disk} {r : Registry} {p : Package}

/-- Under the identifier of a listed component that can be read, it is found or a component that is
listed after it. -/
lemma exists_component? (h : r.Holds p (p.entries.items.map (d.readComponent p)))
    {before after : List Package.Entry} {entry : Package.Entry} {root : Xml.Element}
    (hlisted : p.entries.items = before ++ entry :: after)
    (hroot : d.readElement entry.path = .ok root) :
    ∃ other ∈ entry :: after, ∃ tree, other.id = entry.id ∧ d.readElement other.path = .ok tree ∧
      r.component? ⟨p.id, entry.id⟩ =
        some (Component.Reading.ofElement p other tree).component := by
  have hread : (d.readComponent p entry).component? =
      some (Component.Reading.ofElement p entry root).component :=
    Disk.component?_readComponent_eq_some_iff.mpr ⟨root, hroot, rfl⟩
  obtain ⟨other, hother, c, hc, hhas, hfound⟩ := exists_find?_reverse_filterMap
    (fun e => (d.readComponent p e).component?) (fun c => c.key = ⟨p.id, entry.id⟩) before after
    hread (decide_eq_true rfl)
  obtain ⟨tree, htree, rfl⟩ := Disk.component?_readComponent_eq_some_iff.mp hc
  have hid : other.id = entry.id :=
    congrArg Component.Key.componentId (of_decide_eq_true hhas)
  refine ⟨other, hother, tree, hid, htree, ?_⟩
  rw [h.component, List.filterMap_map, hlisted]
  exact hfound

/-- Every listed component is kept or reported. -/
lemma keepsOrReports (h : r.Holds p (p.entries.items.map (d.readComponent p)))
    {entry : Package.Entry} (hlisted : entry ∈ p.entries.items) :
    r.KeepsOrReports d p entry := by
  cases hfile : d.readElement entry.path with
  | error reason =>
      refine Or.inl ⟨reason, hfile, ?_⟩
      refine h.problem _ (List.mem_flatMap.mpr ⟨_, List.mem_map_of_mem hlisted, ?_⟩)
      simp [Disk.readComponent, hfile, ComponentFile.problems]
  | ok root =>
      obtain ⟨before, after, hitems⟩ := List.append_of_mem hlisted
      obtain ⟨other, hother, tree, hid, htree, hfound⟩ := h.exists_component? hitems hfile
      refine Or.inr ⟨_, other, hfound, rfl, hid, ⟨tree, htree⟩, ?_⟩
      refine (List.mem_cons.mp hother).imp_right fun hlater => ?_
      rw [hitems]
      have hpair := (List.singleton_sublist.mpr hlater).cons_cons entry
      exact hpair.trans (List.sublist_append_right before _)

end Registry.Holds

/-! ### Of a whole parsing -/

namespace Disk

/-- **No silent loss**: every package that was registered was read from one of the folders, and a
component that is the last one of its file name in the manifest is kept or reported. -/
theorem declared_kept_or_reported {d : Disk} {folders : List Path} {a : Assets} {p : Package}
    (hparse : (d.parse folders).outcome = .ok a) (hp : p ∈ a.registry.packages.items) :
    p.path ∈ folders ∧ ∃ root resources,
      d.readElement (p.path.join Package.manifestFile) = .ok root ∧
      Package.resourceSection? root = some resources ∧
      ∀ before e after, Component.childrenNamed "component" resources = before ++ e :: after →
        (∀ later ∈ after, later.attributeOrEmpty "name" ≠ e.attributeOrEmpty "name") →
        a.registry.KeepsOrReports d p (Package.Entry.ofElement p.path e) := by
  obtain ⟨hpath, files, hread, hholds⟩ := (readFrom_of_parse hparse).package p hp
  obtain ⟨-, ⟨root, hroot, hmanifest⟩, rfl⟩ := readPackage_eq_accepted_iff.mp hread
  obtain ⟨-, resources, hresources, hentries⟩ := Package.ofManifestFile_eq_ok hmanifest
  refine ⟨hpath, root, resources, hroot, hresources, fun before e after hsplit hlast => ?_⟩
  -- the last component of a file name is the one that the package lists
  have hlisted : Package.Entry.ofElement p.path e ∈ p.entries.items := by
    rw [hentries, hsplit, List.map_append, List.map_cons]
    refine Catalog.mem_ofList_of_last fun later hlater => ?_
    obtain ⟨element, helement, rfl⟩ := List.mem_map.mp hlater
    exact hlast element helement
  exact hholds.keepsOrReports hlisted

/-! ### Components that hide each other -/

/-- A single package folder is parsed into what its files turned out to be. -/
lemma parse_singleton {d : Disk} {folder : Path} {p : Package} {files : List ComponentFile}
    (hread : d.readPackage folder = .accepted p files) :
    ∃ a, (d.parse [folder]).outcome = .ok a ∧ a.registry.packages.items = [p] ∧
      a.registry.warnings = files.flatMap ComponentFile.problems ∧ a.registry.Holds p files := by
  obtain ⟨a, hadd⟩ : ∃ a, Assets.empty.add (.accepted p files) = .ok a :=
    ⟨_, Assets.add_accepted_eq_ok_iff.mpr ⟨List.not_mem_nil, rfl⟩⟩
  have hparse : (d.parse [folder]).outcome = .ok a := by
    rw [parse, outcome_parseInto_cons, hread, hadd]
    rfl
  obtain ⟨-, rfl⟩ := Assets.add_accepted_eq_ok_iff.mp hadd
  obtain ⟨-, files', hread', hholds⟩ :=
    (readFrom_of_parse hparse).package p (List.mem_singleton_self p)
  rw [path_of_readPackage hread, hread] at hread'
  cases hread'
  exact ⟨_, hparse, rfl, rfl, hholds⟩

/-- A disk with one package folder: its manifest, and two component files with one name in different
folders beside a third one. -/
def packaged (manifest file : String) : Disk where
  entries := .ofList
    [⟨["A"], .folder⟩, ⟨["A", "x"], .folder⟩, ⟨["A", "y"], .folder⟩,
      ⟨["A", "package.xml"], .file manifest.toUTF8⟩, ⟨["A", "x", "M"], .file file.toUTF8⟩,
      ⟨["A", "y", "M"], .file file.toUTF8⟩, ⟨["A", "N"], .file file.toUTF8⟩]
  workingFolder := []

/-- The texts of the paths that are read, with the places that they lead to. -/
def packagedPaths : List (String × Place) :=
  [("A/package.xml", ["A", "package.xml"]), ("A/y/M", ["A", "y", "M"]), ("A/N", ["A", "N"])]

lemma locate_packaged (manifest file : String) {text : String} {place : Place}
    (h : (text, place) ∈ packagedPaths) :
    (packaged manifest file).locate ⟨text⟩ = .ok (.present place) := by
  have hpaths : ∀ row ∈ packagedPaths, Path.parts ⟨row.1⟩ = row.2 ∧
      Path.isAbsolute ⟨row.1⟩ = false ∧ row.1 ≠ "" ∧ row.1.toList.contains '\x00' = false ∧
      ¬ pathLimit < row.1.utf8ByteSize := by decide +kernel
  have hnames : ∀ name ∈ ["A", "package.xml", "y", "M", "N"], ¬ nameLimit < name.utf8ByteSize := by
    decide +kernel
  obtain ⟨hparts, habsolute, hnonempty, hzero, hsize⟩ := hpaths _ h
  rw [locate, hzero, if_neg (by simp), if_neg hnonempty, if_neg hsize, habsolute, hparts]
  simp only [List.forall_mem_cons] at hnames
  simp only [packagedPaths, List.mem_cons, Prod.mk.injEq, List.not_mem_nil, or_false] at h
  rcases h with ⟨-, rfl⟩ | ⟨-, rfl⟩ | ⟨-, rfl⟩ <;>
    simp [follow, packaged, holdsFolder, content?, Catalog.ofList, Catalog.find?_insert,
      Content.isFolder, hnames]

/-- The files that are read hold what was put into them. -/
lemma readText_packaged (manifest file : String) :
    (packaged manifest file).isFile ⟨"A/package.xml"⟩ = true ∧
      (packaged manifest file).readText ⟨"A/package.xml"⟩ = .ok manifest ∧
      (packaged manifest file).readText ⟨"A/y/M"⟩ = .ok file ∧
      (packaged manifest file).readText ⟨"A/N"⟩ = .ok file := by
  have hmanifest := locate_packaged manifest file (.head _)
  have hrow := locate_packaged manifest file (.tail _ (.head _))
  have hmain := locate_packaged manifest file (.tail _ (.tail _ (.head _)))
  refine ⟨?_, readText_of_locate hmanifest ?_, readText_of_locate hrow ?_,
    readText_of_locate hmain ?_⟩
  · rw [isFile, find?]
    rw [hmanifest]
    simp [packaged, content?, Catalog.ofList, Catalog.find?_insert]
  all_goals simp [packaged, content?, Catalog.ofList, Catalog.find?_insert]

/-- A manifest that lists the three files.  The first two have one file name, and the last two have
one identifier. -/
def crowdedManifest : String :=
  "<package id='p'><resources>" ++
    "<component id='a' name='M' path='/x/'/>" ++
    "<component id='b' name='M' path='/y/'/>" ++
    "<component id='b' name='N'/>" ++
  "</resources><publish/></package>"

/-- A disk with this manifest, whose component files can all be read. -/
def crowded : Disk := packaged crowdedManifest "<component/>"

/-- The manifest lists three components, the package two of them. -/
lemma manifest_crowded :
    ∃ root resources first second third p, Xml.Element.read? crowdedManifest = some root ∧
      Package.resourceSection? root = some resources ∧
      Component.childrenNamed "component" resources = [first, second, third] ∧
      (first.attributeOrEmpty "id" = "a" ∧ second.attributeOrEmpty "id" = "b" ∧
        second.attributeOrEmpty "name" = "M" ∧ third.attributeOrEmpty "name" = "N") ∧
      Package.ofManifestFile root ⟨"A"⟩ "A" "A/package.xml" = .ok p ∧
      p.entries.items = [⟨"b", "M", ⟨"A/y/M"⟩, false⟩, ⟨"b", "N", ⟨"A/N"⟩, false⟩] := by
  have hread : (Xml.Element.read? crowdedManifest).map (fun root =>
      ((Package.resourceSection? root).map fun resources =>
        (Component.childrenNamed "component" resources).map fun e =>
          (e.attributeOrEmpty "id", e.attributeOrEmpty "name"),
        (Package.ofManifestFile root ⟨"A"⟩ "A" "A/package.xml").toOption.map fun p =>
          p.entries.items)) =
      some (some [("a", "M"), ("b", "M"), ("b", "N")],
        some [⟨"b", "M", ⟨"A/y/M"⟩, false⟩, ⟨"b", "N", ⟨"A/N"⟩, false⟩]) := by
    decide +kernel
  obtain ⟨root, hroot, hparts⟩ := Option.map_eq_some_iff.mp hread
  obtain ⟨hsection, hpackage⟩ := Prod.mk.inj hparts
  obtain ⟨resources, hresources, hlisted⟩ := Option.map_eq_some_iff.mp hsection
  obtain ⟨p, hp, hentries⟩ := Option.map_eq_some_iff.mp hpackage
  have hmanifest := eq_ok_of_toOption_eq_some hp
  obtain ⟨first, _, hlisted, hfirst, hrest⟩ := List.map_eq_cons_iff.mp hlisted
  obtain ⟨second, _, rfl, hsecond, hrest⟩ := List.map_eq_cons_iff.mp hrest
  obtain ⟨third, _, rfl, hthird, hrest⟩ := List.map_eq_cons_iff.mp hrest
  obtain rfl := List.map_eq_nil_iff.mp hrest
  obtain ⟨hid, hname⟩ := Prod.mk.inj hsecond
  exact ⟨root, resources, first, second, third, p, hroot, hresources, hlisted,
    ⟨congrArg Prod.fst hfirst, hid, hname, congrArg Prod.snd hthird⟩, hmanifest, hentries⟩

/-- Whatever the component files hold, the folder with this manifest is a package. -/
lemma readPackage_packaged (file : String) :
    ∃ p, (packaged crowdedManifest file).readPackage ⟨"A"⟩ =
        .accepted p (p.entries.items.map ((packaged crowdedManifest file).readComponent p)) ∧
      p.entries.items = [⟨"b", "M", ⟨"A/y/M"⟩, false⟩, ⟨"b", "N", ⟨"A/N"⟩, false⟩] := by
  obtain ⟨root, -, -, -, -, p, hroot, -, -, -, hpackage, hentries⟩ := manifest_crowded
  obtain ⟨hfile, hmanifest, -, -⟩ := readText_packaged crowdedManifest file
  have hjoin : Path.join ⟨"A"⟩ Package.manifestFile = ⟨"A/package.xml"⟩ := by decide +kernel
  have hname : Path.fileName? ⟨"A"⟩ = some "A" := by decide +kernel
  refine ⟨p, ?_, hentries⟩
  rw [readPackage_eq_accepted_iff, hjoin, hname]
  exact ⟨hfile, ⟨root, readElement_of_readText hmanifest hroot, hpackage⟩, rfl⟩

/-- The crowded package as it is read: both components that it still lists have the identifier of
the last one. -/
lemma readPackage_crowded :
    ∃ root resources first second third p tree,
      crowded.readElement (p.path.join Package.manifestFile) = .ok root ∧
      Package.resourceSection? root = some resources ∧
      Component.childrenNamed "component" resources = [first, second, third] ∧
      (first.attributeOrEmpty "id" = "a" ∧ second.attributeOrEmpty "id" = "b" ∧
        second.attributeOrEmpty "name" = "M" ∧ third.attributeOrEmpty "name" = "N") ∧
      crowded.readPackage ⟨"A"⟩ = .accepted p
        [.read (.ofElement p ⟨"b", "M", ⟨"A/y/M"⟩, false⟩ tree),
          .read (.ofElement p ⟨"b", "N", ⟨"A/N"⟩, false⟩ tree)] := by
  obtain ⟨root, resources, first, second, third, p, hroot, hresources, hlisted, hattributes,
    hpackage, hentries⟩ := manifest_crowded
  obtain ⟨hfile, hmanifest, hrow, hmain⟩ := readText_packaged crowdedManifest "<component/>"
  have htree : (Xml.Element.read? "<component/>").isSome = true := by decide +kernel
  obtain ⟨tree, htree⟩ := Option.isSome_iff_exists.mp htree
  have hreadRoot := readElement_of_readText hmanifest hroot
  have hreadRow := readElement_of_readText hrow htree
  have hreadMain := readElement_of_readText hmain htree
  have hjoin : Path.join ⟨"A"⟩ Package.manifestFile = ⟨"A/package.xml"⟩ := by decide +kernel
  have hname : Path.fileName? ⟨"A"⟩ = some "A" := by decide +kernel
  have hpath := (Package.ofManifestFile_eq_ok hpackage).1
  refine ⟨root, resources, first, second, third, p, tree, ?_, hresources, hlisted, hattributes, ?_⟩
  · rw [hpath, hjoin]
    exact hreadRoot
  · rw [readPackage_eq_accepted_iff, hjoin, hname]
    refine ⟨hfile, ⟨root, hreadRoot, hpackage⟩, ?_⟩
    simp only [hentries, List.map_cons, List.map_nil, readComponent, crowded, hreadRow, hreadMain]

/-- Reading a component that can be read reports nothing as unreadable. -/
lemma unreadable_not_mem_problems (p : Package) (entry : Package.Entry) (root : Xml.Element)
    (path reason : String) :
    .unreadableComponent path reason ∉ (Component.Reading.ofElement p entry root).problems := by
  simp only [Component.Reading.ofElement, List.mem_append, List.mem_filterMap, not_or, not_exists,
    not_and]
  constructor
  · rw [Component.kindProblems]
    split
    · simp
    · split <;> simp
  · intro m _
    rw [Component.memberProblem?]
    split <;> simp

/-- In the crowded package the first component is lost: nothing is registered under its identifier.
The second one is displaced: another file is registered under its identifier.  Nothing is reported
as unreadable. -/
theorem declared_lost :
    ∃ a p root resources, (crowded.parse [⟨"A"⟩]).outcome = .ok a ∧
      p ∈ a.registry.packages.items ∧
      crowded.readElement (p.path.join Package.manifestFile) = .ok root ∧
      Package.resourceSection? root = some resources ∧
      (∃ e ∈ Component.childrenNamed "component" resources,
        a.registry.component? ⟨p.id, e.attributeOrEmpty "id"⟩ = none) ∧
      (∃ e ∈ Component.childrenNamed "component" resources,
        ∃ c, a.registry.component? ⟨p.id, e.attributeOrEmpty "id"⟩ = some c ∧
          c.fileName ≠ e.attributeOrEmpty "name") ∧
      ∀ path reason, .unreadableComponent path reason ∉ a.registry.warnings := by
  obtain ⟨root, resources, first, second, third, p, tree, hroot, hresources, hlisted,
    ⟨hfirst, hsecond, hname, -⟩, hread⟩ := readPackage_crowded
  obtain ⟨a, hparse, hpackages, hwarnings, hholds⟩ := parse_singleton hread
  refine ⟨a, p, root, resources, hparse, by simp [hpackages], hroot, hresources,
    ⟨first, by simp [hlisted], ?_⟩, ⟨second, by simp [hlisted], ?_⟩, fun path reason => ?_⟩
  · rw [hfirst, hholds.component]
    simp [ComponentFile.component?, Component.key, Component.Reading.ofElement]
  · rw [hsecond, hname, hholds.component]
    simp [ComponentFile.component?, Component.key, Component.Reading.ofElement]
  · rw [hwarnings]
    simp [ComponentFile.problems, unreadable_not_mem_problems]

/-- The second component of the crowded package is the last one of its file name, so it is kept or
reported; in fact the third one stands in for it. -/
theorem kept_or_reported_crowded :
    ∃ a p root resources before e after, (crowded.parse [⟨"A"⟩]).outcome = .ok a ∧
      p ∈ a.registry.packages.items ∧
      crowded.readElement (p.path.join Package.manifestFile) = .ok root ∧
      Package.resourceSection? root = some resources ∧
      Component.childrenNamed "component" resources = before ++ e :: after ∧
      (∀ later ∈ after, later.attributeOrEmpty "name" ≠ e.attributeOrEmpty "name") ∧
      a.registry.KeepsOrReports crowded p (Package.Entry.ofElement p.path e) := by
  obtain ⟨root, resources, first, second, third, p, tree, hroot, hresources, hlisted,
    ⟨-, -, hsecond, hthird⟩, hread⟩ := readPackage_crowded
  obtain ⟨a, hparse, hpackages, -⟩ := parse_singleton hread
  have hp : p ∈ a.registry.packages.items := by simp [hpackages]
  obtain ⟨-, root', resources', hroot', hresources', hkept⟩ := declared_kept_or_reported hparse hp
  -- the manifest is read in one way only
  cases hroot.symm.trans hroot'
  cases hresources.symm.trans hresources'
  have hnames : ∀ later ∈ [third], later.attributeOrEmpty "name" ≠
      second.attributeOrEmpty "name" := by simp [hsecond, hthird]
  exact ⟨a, p, root, resources, [first], second, [third], hparse, hp, hroot, hresources, hlisted,
    hnames, hkept [first] second [third] hlisted hnames⟩

end Disk

end UiBinding
