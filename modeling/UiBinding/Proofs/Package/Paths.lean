/-
Paths of entries: where a package expects the files of its components.

The `path` attribute of an entry names a folder below the package folder, and slashes around it do
not count.  The file name is put behind it as it is written, so the file is below the package folder
unless the file name is an absolute path, which replaces all that stands in front of it.

* `Path.Trims` and `Path.trims_iff`: what is left of a text without the slashes around it;
* `Path.front` and `Path.join_of_not_absolute`: what stands in front of the names in a folder;
* `Package.IsPlaced` says where the file of an element of the resource section is, and
  `Package.isPlaced_iff` that there it is expected;
* `Package.entries_placed`: the paths of all entries of a manifest, and that no slash around a
  `path` attribute counts.
-/
import Mathlib.Data.List.TakeWhile
import UiBinding.Proofs.Assets.Registration

namespace UiBinding

namespace Path

/-! ### Texts without the slashes around them -/

/-- A text is another one with slashes around it, which has none at its two ends. -/
structure Trims (text piece : String) : Prop where
  exists_slashes : ∃ m n : ℕ,
    text.toList = List.replicate m '/' ++ piece.toList ++ List.replicate n '/'
  head : piece.toList.head? ≠ some '/'
  last : piece.toList.getLast? ≠ some '/'

/-- Only what stands in front of the first other character is dropped. -/
lemma dropWhile_replicate_append {c : Char} {cs : List Char} (h : cs.head? ≠ some c) (n : ℕ) :
    (List.replicate n c ++ cs).dropWhile (· = c) = cs := by
  rw [List.dropWhile_append_of_pos (by simp)]
  cases cs with
  | nil => rfl
  | cons e es =>
      have hne : e ≠ c := by simpa using h
      simp [hne]

/-- The characters in front that are dropped are all the same. -/
lemma exists_replicate_append_dropWhile (c : Char) (cs : List Char) :
    ∃ n : ℕ, cs = List.replicate n c ++ cs.dropWhile (· = c) ∧
      (cs.dropWhile (· = c)).head? ≠ some c := by
  refine ⟨(cs.takeWhile (· = c)).length, ?_, ?_⟩
  · have htaken : cs.takeWhile (· = c) = List.replicate (cs.takeWhile (· = c)).length c :=
      List.eq_replicate_iff.mpr ⟨rfl, fun e he => by simpa using List.mem_takeWhile_imp he⟩
    rw [← htaken, List.takeWhile_append_dropWhile]
  · intro hhead
    have hnot := List.head?_dropWhile_not (fun e => decide (e = c)) cs
    rw [hhead] at hnot
    simp at hnot

/-- **What is left** of a text is the text without the slashes at its two ends. -/
lemma trims_iff {text piece : String} : Trims text piece ↔ piece = trimSlashes text := by
  constructor
  · rintro ⟨⟨m, n, htext⟩, hhead, hlast⟩
    -- if nothing is left, the slashes behind are dropped with those in front
    have hfront : ∃ k : ℕ, text.toList.dropWhile (· = '/') =
        piece.toList ++ List.replicate k '/' := by
      by_cases hempty : piece.toList = []
      · refine ⟨0, ?_⟩
        rw [htext, hempty, List.append_nil, List.replicate_append_replicate, ← List.append_nil
          (List.replicate (m + n) '/'), dropWhile_replicate_append (by simp)]
        rfl
      · refine ⟨n, ?_⟩
        rw [htext, List.append_assoc, dropWhile_replicate_append]
        rwa [List.head?_append_of_ne_nil _ hempty]
    obtain ⟨k, hfront⟩ := hfront
    rw [← String.toList_inj, trimSlashes, String.toList_ofList, hfront, List.reverse_append,
      List.reverse_replicate, dropWhile_replicate_append, List.reverse_reverse]
    rwa [List.head?_reverse]
  · rintro rfl
    obtain ⟨m, hfront, -⟩ := exists_replicate_append_dropWhile '/' text.toList
    obtain ⟨n, hback, hlast⟩ :=
      exists_replicate_append_dropWhile '/' (text.toList.dropWhile (· = '/')).reverse
    refine ⟨⟨m, n, ?_⟩, by simpa [isAbsolute] using isAbsolute_trimSlashes text, ?_⟩
    · rw [List.reverse_eq_iff, List.reverse_append, List.reverse_replicate] at hback
      rw [trimSlashes, String.toList_ofList, List.append_assoc, ← hback, ← hfront]
    · rwa [trimSlashes, String.toList_ofList, List.getLast?_reverse]

/-! ### Names in a folder -/

/-- What stands in front of the names in a folder: its path, with a slash behind it unless it ends
with one or is empty. -/
def front (p : Path) : String :=
  if p.text = "" || p.text.toList.getLast? = some '/' then p.text else p.text ++ "/"

/-- An absolute path replaces what stands in front of it. -/
lemma join_of_absolute {p : Path} {child : String} (h : isAbsolute ⟨child⟩ = true) :
    p.join child = ⟨child⟩ := by
  rw [join, if_pos h]

/-- Any other path is put behind it. -/
lemma join_of_not_absolute {p : Path} {child : String} (h : isAbsolute ⟨child⟩ = false) :
    p.join child = ⟨p.front ++ child⟩ := by
  rw [join, h, if_neg Bool.false_ne_true, front]
  split <;> rfl

/-- A folder that does not end with a slash gets one behind it. -/
lemma front_join {p : Path} {piece : String} (hempty : piece ≠ "")
    (hhead : piece.toList.head? ≠ some '/') (hlast : piece.toList.getLast? ≠ some '/') :
    (p.join piece).front = p.front ++ piece ++ "/" := by
  have hrelative : isAbsolute ⟨piece⟩ = false := by simpa [isAbsolute] using hhead
  have hchars : piece.toList ≠ [] := by simpa using hempty
  have hend : (p.front ++ piece).toList.getLast? ≠ some '/' := by
    rwa [String.toList_append, List.getLast?_append_of_ne_nil _ hchars]
  rw [join_of_not_absolute hrelative]
  unfold front
  rw [if_neg]
  simpa [hempty] using hend

end Path

namespace Package

/-! ### Entries -/

section

variable {folder : Path} {relative name : String}

/-- A file whose name is an absolute path is there. -/
lemma entryPath_of_absolute (h : Path.isAbsolute ⟨name⟩ = true) :
    entryPath folder relative name = ⟨name⟩ := by
  simp only [entryPath, Path.join_of_absolute h, ite_self]

/-- Without a folder between them, the name is put behind the folder of the package. -/
lemma entryPath_of_trims_empty (h : Path.isAbsolute ⟨name⟩ = false)
    (hrelative : Path.Trims relative "") :
    entryPath folder relative name = ⟨folder.front ++ name⟩ := by
  unfold entryPath
  rw [← Path.trims_iff.mp hrelative, if_pos rfl, Path.join_of_not_absolute h]

/-- The name is put behind the folder that is left between them. -/
lemma entryPath_of_trims {piece : String} (h : Path.isAbsolute ⟨name⟩ = false)
    (hrelative : Path.Trims relative piece) (hpiece : piece ≠ "") :
    entryPath folder relative name = ⟨folder.front ++ piece ++ "/" ++ name⟩ := by
  unfold entryPath
  rw [← Path.trims_iff.mp hrelative, if_neg hpiece, Path.join_of_not_absolute h,
    Path.front_join hpiece hrelative.head hrelative.last]

end

/-- The `path` attribute of an element; one that is missing counts as a slash. -/
def writtenPath (e : Xml.Element) : String := (e.attribute? "path").getD "/"

/-- Where the file of an element of the resource section is: where its `name` attribute says, if
that is an absolute path.  Otherwise the file is in the folder of the package, or in the folder in
it that is left of the `path` attribute. -/
inductive IsPlaced (folder : Path) (e : Xml.Element) : Path → Prop
  | absolute (hname : Path.isAbsolute ⟨e.attributeOrEmpty "name"⟩ = true) :
      IsPlaced folder e ⟨e.attributeOrEmpty "name"⟩
  | inFolder (hname : Path.isAbsolute ⟨e.attributeOrEmpty "name"⟩ = false)
      (hpath : Path.Trims (writtenPath e) "") :
      IsPlaced folder e ⟨folder.front ++ e.attributeOrEmpty "name"⟩
  | below {piece : String} (hname : Path.isAbsolute ⟨e.attributeOrEmpty "name"⟩ = false)
      (hpath : Path.Trims (writtenPath e) piece) (hpiece : piece ≠ "") :
      IsPlaced folder e ⟨folder.front ++ piece ++ "/" ++ e.attributeOrEmpty "name"⟩

/-- The parts of the path of an entry. -/
lemma path_ofElement (folder : Path) (e : Xml.Element) : (Entry.ofElement folder e).path =
    entryPath folder (writtenPath e) (e.attributeOrEmpty "name") := by
  simp only [Entry.ofElement, writtenPath]

/-- **An entry has its file** where its element says. -/
lemma isPlaced_iff {folder path : Path} {e : Xml.Element} :
    IsPlaced folder e path ↔ path = (Entry.ofElement folder e).path := by
  rw [path_ofElement]
  constructor
  · intro h
    cases h with
    | absolute hname => exact (entryPath_of_absolute hname).symm
    | inFolder hname hpath => exact (entryPath_of_trims_empty hname hpath).symm
    | below hname hpath hpiece => exact (entryPath_of_trims hname hpath hpiece).symm
  · rintro rfl
    have htrims : Path.Trims (writtenPath e) (Path.trimSlashes (writtenPath e)) :=
      Path.trims_iff.mpr rfl
    cases hname : Path.isAbsolute ⟨e.attributeOrEmpty "name"⟩ with
    | true =>
        rw [entryPath_of_absolute hname]
        exact .absolute hname
    | false =>
        by_cases hpiece : Path.trimSlashes (writtenPath e) = ""
        · rw [hpiece] at htrims
          rw [entryPath_of_trims_empty hname htrims]
          exact .inFolder hname htrims
        · rw [entryPath_of_trims hname htrims hpiece]
          exact .below hname htrims hpiece

/-- A file whose name is no absolute path is below the folder of the package. -/
lemma IsPlaced.exists_eq {folder path : Path} {e : Xml.Element} (h : IsPlaced folder e path)
    (hname : Path.isAbsolute ⟨e.attributeOrEmpty "name"⟩ = false) :
    ∃ below, path.text = folder.front ++ below := by
  cases h with
  | absolute habsolute =>
      rw [hname] at habsolute
      cases habsolute
  | inFolder => exact ⟨_, rfl⟩
  | below => exact ⟨_, by rw [String.append_assoc, String.append_assoc]⟩

/-! ### Slashes -/

/-- Two elements that differ at most in the slashes around their `path` attribute. -/
structure SameButSlashes (e f : Xml.Element) : Prop where
  name : e.name = f.name
  attribute?_eq : ∀ key, key ≠ "path" → e.attribute? key = f.attribute? key
  path : ∃ piece, Path.Trims (writtenPath e) piece ∧ Path.Trims (writtenPath f) piece

/-- Two manifests whose elements differ at most in the slashes around their `path` attributes. -/
structure SameManifest (root other : Xml.Element) : Prop where
  identifier : root.attribute? "id" = other.attribute? "id"
  sections : List.Forall₂ (fun s t => s.name = t.name ∧
    List.Forall₂ SameButSlashes s.children t.children) root.children other.children

/-- The slashes around a `path` attribute do not count for an entry. -/
lemma SameButSlashes.ofElement_eq {e f : Xml.Element} (h : SameButSlashes e f) (folder : Path) :
    Entry.ofElement folder e = Entry.ofElement folder f := by
  obtain ⟨piece, he, hf⟩ := h.path
  have hattribute (key : String) (hkey : key ≠ "path") :
      e.attributeOrEmpty key = f.attributeOrEmpty key := by
    rw [Xml.Element.attributeOrEmpty, Xml.Element.attributeOrEmpty, h.attribute?_eq key hkey]
  have htrimmed : Path.trimSlashes ((e.attribute? "path").getD "/") =
      Path.trimSlashes ((f.attribute? "path").getD "/") :=
    (Path.trims_iff.mp he).symm.trans (Path.trims_iff.mp hf)
  simp only [Entry.ofElement, entryPath, hattribute "id" (by decide),
    hattribute "name" (by decide), h.attribute?_eq "exported" (by decide), htrimmed]

/-- So they do not count for the entries of a section either. -/
lemma map_ofElement_eq {es fs : List Xml.Element} (h : List.Forall₂ SameButSlashes es fs)
    (folder : Path) :
    (es.filter fun e => e.name = "component").map (Entry.ofElement folder) =
      (fs.filter fun f => f.name = "component").map (Entry.ofElement folder) := by
  induction h with
  | nil => rfl
  | cons hfirst _ ih =>
      rw [List.filter_cons, List.filter_cons, hfirst.name]
      split
      · rw [List.map_cons, List.map_cons, ih, hfirst.ofElement_eq]
      · exact ih

section

variable {root other : Xml.Element} (h : SameManifest root other)

include h

/-- The sections have the same names. -/
lemma SameManifest.names_eq :
    root.children.map Xml.Element.name = other.children.map Xml.Element.name := by
  have hsections := h.sections
  generalize root.children = ss at hsections ⊢
  generalize other.children = ts at hsections ⊢
  induction hsections with
  | nil => rfl
  | cons hfirst _ ih => rw [List.map_cons, List.map_cons, hfirst.1, ih]

/-- Both have a resource section, with elements that differ at most in slashes, or none has. -/
lemma SameManifest.resourceSection?_cases :
    resourceSection? root = none ∧ resourceSection? other = none ∨
      ∃ s t, resourceSection? root = some s ∧ resourceSection? other = some t ∧
        List.Forall₂ SameButSlashes s.children t.children := by
  have hsections := h.sections
  rw [resourceSection?, resourceSection?]
  generalize root.children = ss at hsections ⊢
  generalize other.children = ts at hsections ⊢
  rcases hsections with _ | ⟨⟨hname, hchildren⟩, _ | ⟨⟨hnext, -⟩, -⟩⟩
  · exact Or.inl ⟨rfl, rfl⟩
  · exact Or.inl ⟨rfl, rfl⟩
  · dsimp only
    rw [hname, hnext]
    split
    · exact Or.inr ⟨_, _, rfl, rfl, hchildren⟩
    · exact Or.inl ⟨rfl, rfl⟩

/-- **Slashes do not count**: two such manifests declare the same package, or have the same
defect. -/
lemma SameManifest.ofManifest_eq (folder : Path) (name : String) :
    ofManifest root folder name = ofManifest other folder name := by
  have hid : root.nonEmptyAttribute? "id" = other.nonEmptyAttribute? "id" := by
    rw [Xml.Element.nonEmptyAttribute?, Xml.Element.nonEmptyAttribute?, h.identifier]
  rw [ofManifest, ofManifest, hid]
  obtain ⟨hroot, hother⟩ | ⟨s, t, hroot, hother, hchildren⟩ := h.resourceSection?_cases
  · rw [hroot, hother, h.names_eq]
  · simp only [hroot, hother, map_ofElement_eq hchildren]

end

/-! ### Manifests -/

/-- An element declares a component of a manifest: it is in the resource section, and no later
element there declares one with the same file name. -/
def Declares (root e : Xml.Element) : Prop :=
  ∃ resources before after, resourceSection? root = some resources ∧
    Component.childrenNamed "component" resources = before ++ e :: after ∧
      ∀ f ∈ after, f.attributeOrEmpty "name" ≠ e.attributeOrEmpty "name"

/-- The entries of a package are those of the elements that declare its components. -/
lemma mem_entries_iff {root : Xml.Element} {folder : Path} {name file : String} {p : Package}
    (h : ofManifestFile root folder name file = .ok p) {entry : Entry} :
    entry ∈ p.entries.items ↔ ∃ e, Declares root e ∧ entry = .ofElement folder e := by
  obtain ⟨-, resources, hresources, hentries⟩ := ofManifestFile_eq_ok h
  rw [hentries]
  constructor
  · intro hmem
    obtain ⟨front, back, hsplit, hlast⟩ := Catalog.exists_split_of_mem_ofList hmem
    obtain ⟨before, later, hchildren, -, hlater⟩ := List.map_eq_append_iff.mp hsplit
    obtain ⟨e, after, rfl, rfl, rfl⟩ := List.map_eq_cons_iff.mp hlater
    refine ⟨e, ⟨resources, before, after, hresources, hchildren, fun f hf => ?_⟩, rfl⟩
    exact hlast _ (List.mem_map_of_mem hf)
  · rintro ⟨e, ⟨_, before, after, hsection, hchildren, hlast⟩, rfl⟩
    cases hresources.symm.trans hsection
    rw [hchildren, List.map_append, List.map_cons]
    refine Catalog.mem_ofList_of_last fun entry hentry => ?_
    obtain ⟨f, hf, rfl⟩ := List.mem_map.mp hentry
    exact hlast f hf

/-- **Where the files of a package are**: every element that declares a component has one entry, and
there is no other.  The path of the entry is the folder of the package, what is left of the `path`
attribute without the slashes around it, and the file name; or it is the file name alone, if that is
an absolute path.  Slashes around a `path` attribute change nothing about what a manifest
declares. -/
theorem entries_placed {root : Xml.Element} {folder : Path} {name file : String} :
    (∀ p, ofManifestFile root folder name file = .ok p →
      (∀ e, Declares root e → ∃ entry, p.entries.find? (e.attributeOrEmpty "name") = some entry ∧
        IsPlaced folder e entry.path ∧
        (Path.isAbsolute ⟨entry.fileName⟩ = false →
          ∃ below, entry.path.text = folder.front ++ below)) ∧
      ∀ entry ∈ p.entries.items, ∃ e, Declares root e ∧
        entry.fileName = e.attributeOrEmpty "name") ∧
    ∀ other, SameManifest root other →
      ofManifestFile root folder name file = ofManifestFile other folder name file := by
  refine ⟨fun p hp => ⟨fun e he => ?_, fun entry hentry => ?_⟩, fun other hother => ?_⟩
  · have hmem := (mem_entries_iff hp).mpr ⟨e, he, rfl⟩
    have hplaced : IsPlaced folder e (Entry.ofElement folder e).path := isPlaced_iff.mpr rfl
    exact ⟨_, Catalog.find?_eq_some_iff.mpr ⟨hmem, rfl⟩, hplaced, hplaced.exists_eq⟩
  · obtain ⟨e, he, rfl⟩ := (mem_entries_iff hp).mp hentry
    exact ⟨e, he, rfl⟩
  · rw [ofManifestFile, ofManifestFile, hother.ofManifest_eq]

/-- A manifest with a component whose file name is an absolute path. -/
def strayText : String :=
  "<package id='p'><resources><component id='a' name='/Main.xml' path='/ui/'/></resources>" ++
    "<publish/></package>"

/-- **A file outside its package**: the manifest is accepted, and the file of its component is not
below the folder of the package. -/
theorem entries_stray :
    ∃ root p, Xml.Element.read? strayText = some root ∧
      ofManifestFile root ⟨"assets/Login"⟩ "Login" "assets/Login/package.xml" = .ok p ∧
      ∃ entry ∈ p.entries.items, entry.path = ⟨"/Main.xml"⟩ ∧
        ¬ "assets/Login".toList <+: entry.path.text.toList := by
  have hfacts : ((Xml.Element.read? strayText).bind fun root =>
      (ofManifestFile root ⟨"assets/Login"⟩ "Login" "assets/Login/package.xml").toOption).map
        (fun p => p.entries.items.map Entry.path) = some [⟨"/Main.xml"⟩] := by decide +kernel
  obtain ⟨p, hp, hpaths⟩ := Option.map_eq_some_iff.mp hfacts
  obtain ⟨root, hroot, hp⟩ := Option.bind_eq_some_iff.mp hp
  obtain ⟨entry, hentry, hpath⟩ := List.mem_map.mp (hpaths ▸ List.mem_singleton_self _)
  refine ⟨root, p, hroot, eq_ok_of_toOption_eq_some hp, entry, hentry, hpath, ?_⟩
  rw [hpath]
  decide

/-- An element with an identifier, a file name and a `path` attribute. -/
def component (id name path : String) : Xml.Element :=
  .mk "component" ((Catalog.ofList [("id", id), ("name", name)]).insert ("path", path)) []

/-- A manifest with two components.  The file name of the second one is an absolute path. -/
def slashed (path : String) : Xml.Element :=
  .mk "package" (.ofList [("id", "p")])
    [.mk "resources" .empty [component "a" "Main.xml" path, component "b" "/Row.xml" path],
      .mk "publish" .empty []]

/-- The attributes of such an element. -/
lemma attribute?_component (id name path key : String) :
    (component id name path).attribute? key = if "path" = key then some path else
      ((Catalog.ofList [("id", id), ("name", name)] : Xml.Attributes).find? key).map Prod.snd := by
  rw [Xml.Element.attribute?, component, Xml.Element.attributes, Catalog.find?_insert]
  exact apply_ite _ _ _ _

section

variable {path other piece : String} (hpath : Path.Trims path piece)
  (hother : Path.Trims other piece)

include hpath hother

/-- Other slashes around its `path` attribute leave such an element the same. -/
lemma sameButSlashes_component (id name : String) :
    SameButSlashes (component id name path) (component id name other) := by
  refine ⟨rfl, fun key hkey => ?_, piece, ?_, ?_⟩
  · rw [attribute?_component, attribute?_component, if_neg hkey.symm, if_neg hkey.symm]
  · rwa [writtenPath, attribute?_component, if_pos rfl]
  · rwa [writtenPath, attribute?_component, if_pos rfl]

/-- So they leave the manifest the same. -/
lemma sameManifest_slashed : SameManifest (slashed path) (slashed other) := by
  have hchildren : List.Forall₂ SameButSlashes
      [component "a" "Main.xml" path, component "b" "/Row.xml" path]
      [component "a" "Main.xml" other, component "b" "/Row.xml" other] :=
    .cons (sameButSlashes_component hpath hother _ _)
      (.cons (sameButSlashes_component hpath hother _ _) .nil)
  exact ⟨rfl, .cons ⟨rfl, hchildren⟩ (.cons ⟨rfl, .nil⟩ .nil)⟩

end

/-- Three slashes around a `path` attribute do not count: the file of the first component is in the
folder between them, and without the slashes the package is the same. -/
theorem entries_placed_slashed :
    ∃ p entry, ofManifestFile (slashed "//ui/x/") ⟨"assets/Login"⟩ "Login"
        "assets/Login/package.xml" = .ok p ∧
      Declares (slashed "//ui/x/") (component "a" "Main.xml" "//ui/x/") ∧
      p.entries.find? "Main.xml" = some entry ∧
      IsPlaced ⟨"assets/Login"⟩ (component "a" "Main.xml" "//ui/x/") entry.path ∧
      entry.path = ⟨"assets/Login/ui/x/Main.xml"⟩ ∧
      SameManifest (slashed "//ui/x/") (slashed "ui/x") ∧
      ofManifestFile (slashed "ui/x") ⟨"assets/Login"⟩ "Login" "assets/Login/package.xml" =
        .ok p := by
  have hslashes : Path.Trims "//ui/x/" "ui/x" := ⟨⟨2, 1, by decide⟩, by decide, by decide⟩
  have hplain : Path.Trims "ui/x" "ui/x" := ⟨⟨0, 0, by decide⟩, by decide, by decide⟩
  have hsame := sameManifest_slashed hslashes hplain
  obtain ⟨hplaced, hslash⟩ :=
    @entries_placed (slashed "//ui/x/") ⟨"assets/Login"⟩ "Login" "assets/Login/package.xml"
  have hdeclares : Declares (slashed "//ui/x/") (component "a" "Main.xml" "//ui/x/") :=
    ⟨_, [], [component "b" "/Row.xml" "//ui/x/"], rfl, rfl, by decide +kernel⟩
  have hname : (component "a" "Main.xml" "//ui/x/").attributeOrEmpty "name" = "Main.xml" := by
    decide +kernel
  obtain ⟨p, hp⟩ : ∃ p, ofManifestFile (slashed "//ui/x/") ⟨"assets/Login"⟩ "Login"
    "assets/Login/package.xml" = .ok p := ⟨_, rfl⟩
  obtain ⟨entry, hfound, hentry, -⟩ := (hplaced p hp).1 _ hdeclares
  rw [hname] at hfound
  refine ⟨p, entry, hp, hdeclares, hfound, hentry, ?_, hsame, (hslash _ hsame).symm.trans hp⟩
  rw [isPlaced_iff.mp hentry]
  decide +kernel

end Package

end UiBinding
