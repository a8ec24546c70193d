/-
The order of the packages: what a resolution finds out does not depend on it.

Every pass asks which packages and components are registered, and no pass asks in which order.  The
walk goes through the packages in order, but which components it lists depends only on what root
panels lead to.  So with the packages in another order the same is noted on every component, and the
lists that a resolution returns are in another order at most.

* `Registry.SameUpToOrder.resolveComponent_eq` and `underRootPanel_iff`: passes and paths in two
  registries that are the same apart from the order;
* `Assets.SameUpToOrder.settle_eq`: every component is settled in the same way;
* `Resolution.SameUpToOrder` is what two resolutions have in common;
* `resolve_parse_perm`: parsing the folders in another order and resolving.
-/
import UiBinding.Proofs.Assets.Order
import UiBinding.Proofs.Resolution.Records
import UiBinding.Proofs.Resolution.Settled
import UiBinding.Proofs.Walk.Descendants

namespace UiBinding

/-! ### Registries -/

namespace Registry.SameUpToOrder

variable {r s : Registry} {f : Component → Component} {hf : ∀ c, (f c).key = c.key}

lemma packages (h : r.SameUpToOrder s) : r.packages.items.Perm s.packages.items :=
  Catalog.perm_iff.mpr h.package

lemma components (h : r.SameUpToOrder s) : r.components.items.Perm s.components.items :=
  Catalog.perm_iff.mpr h.component

/-- A change of every component keeps what two registries have in common. -/
lemma mapComponents (h : r.SameUpToOrder s) :
    (r.mapComponents f hf).SameUpToOrder (s.mapComponents f hf) where
  package := h.package
  component key := by rw [component?_mapComponents, component?_mapComponents, h.component]
  warnings := h.warnings

lemma packageName_eq (h : r.SameUpToOrder s) : r.packageName = s.packageName := by
  funext id
  rw [packageName, packageName, h.package]

lemma target?_eq (h : r.SameUpToOrder s) : r.target? = s.target? := by
  funext key
  rw [target?, target?, h.package, h.component]

/-- Components are typed in the same way. -/
lemma resolveComponent_eq (h : r.SameUpToOrder s) : r.resolveComponent = s.resolveComponent := by
  refine resolveComponent_congr (funext fun key => ?_)
  rw [referenceTyping, referenceTyping, h.target?_eq]

/-- The same root panels are found. -/
lemma rootPanels_perm (h : r.SameUpToOrder s) : r.rootPanels.Perm s.rootPanels := by
  rw [rootPanels, rootPanels]
  simp only [h.component]
  exact h.packages.filterMap _

/-- Root panels lead to the same components. -/
lemma underRootPanel_iff (h : r.SameUpToOrder s) {key : Component.Key} :
    r.UnderRootPanel key ↔ s.UnderRootPanel key := by
  have hnests : r.Nests = s.Nests := by
    funext a b
    simp only [Nests, h.component, h.target?_eq]
  have hroots : r.IsRootPanel = s.IsRootPanel := by
    funext root
    simp only [IsRootPanel, h.component, h.packages.mem_iff]
  rw [UnderRootPanel, UnderRootPanel, hnests, hroots]

end Registry.SameUpToOrder

/-- The rows of a walk, without the member by which each was found first. -/
def Walk.found (w : Walk) : List (Component.Key × String) :=
  w.subPanels.map fun row => (row.component, row.packageName)

/-- A row names the package of its component. -/
lemma Registry.found_walk (r : Registry) :
    r.walk.found = r.walk.keys.map fun key => (key, r.packageName key.packageId) := by
  simp only [Walk.found, Walk.keys, walk, List.map_map]
  rfl

/-! ### The passes -/

namespace Assets.SameUpToOrder

variable {a b : Assets} (h : a.SameUpToOrder b) (config : Config)

include h

lemma decideExport_eq :
    Component.decideExport a.requests config = Component.decideExport b.requests config := by
  funext c
  simp only [Component.decideExport, h.request]

lemma exportPass : (a.exportPass config).registry.SameUpToOrder (b.exportPass config).registry := by
  rw [registry_exportPass_eq, registry_exportPass_eq]
  simp only [h.decideExport_eq config]
  exact h.registry.mapComponents

lemma prepare_eq : a.prepare config = b.prepare config := by
  funext c
  rw [prepare, prepare, (h.exportPass config).resolveComponent_eq, h.decideExport_eq]

lemma typePass : (a.typePass config).registry.SameUpToOrder (b.typePass config).registry := by
  rw [registry_typePass_eq, registry_typePass_eq]
  simp only [h.prepare_eq config]
  exact h.registry.mapComponents

/-- The walks list the same components. -/
lemma mem_keys_walk_iff {key : Component.Key} :
    key ∈ (a.walk config).keys ↔ key ∈ (b.walk config).keys := by
  rw [mem_keys_walk_iff_exportPass, mem_keys_walk_iff_exportPass,
    (h.exportPass config).underRootPanel_iff]

lemma joinWalk_eq : a.joinWalk config = b.joinWalk config := by
  funext c
  simp only [joinWalk, h.mem_keys_walk_iff config]

lemma reachPass : (a.reachPass config).registry.SameUpToOrder (b.reachPass config).registry := by
  rw [registry_reachPass_eq, registry_reachPass_eq]
  simp only [h.prepare_eq config, h.joinWalk_eq config]
  exact h.registry.mapComponents

/-- **Every component is settled in the same way.** -/
lemma settle_eq : a.settle config = b.settle config := by
  funext c
  rw [settle, settle, (h.reachPass config).resolveComponent_eq, h.joinWalk_eq, h.prepare_eq]

/-- The registries at the end are the same apart from the order. -/
lemma registry_resolve :
    (a.resolve config).registry.SameUpToOrder (b.resolve config).registry := by
  rw [registry_resolve_eq, registry_resolve_eq]
  simp only [h.settle_eq config]
  exact h.registry.mapComponents

/-- The walks list the same components, each once. -/
lemma keys_walk_perm : (a.walk config).keys.Perm (b.walk config).keys := by
  have hnodup : (a.walk config).keys.Nodup := Registry.nodup_keys_walk _
  have hnodup' : (b.walk config).keys.Nodup := Registry.nodup_keys_walk _
  rw [List.perm_ext_iff_of_nodup hnodup hnodup']
  exact fun _ => h.mem_keys_walk_iff config

/-- The rows are the same, apart from the member by which each was found first. -/
lemma found_walk_perm : (a.walk config).found.Perm (b.walk config).found := by
  rw [walk, walk, Registry.found_walk, Registry.found_walk, (h.typePass config).packageName_eq]
  exact (h.keys_walk_perm config).map _

/-- The same components are grouped, each once. -/
lemma keys_exports_perm :
    (a.resolve config).exports.keys.Perm (b.resolve config).exports.keys := by
  rw [List.perm_ext_iff_of_nodup (Exports.nodup_keys _) (Exports.nodup_keys _)]
  intro key
  rw [mem_keys_exports_resolve_iff, mem_keys_exports_resolve_iff,
    (h.registry_resolve config).component]

/-- The same references dangle. -/
lemma dangling_perm : (a.resolve config).dangling.Perm (b.resolve config).dangling := by
  have hdangling : a.dangling? = b.dangling? := by
    funext c m
    rw [dangling?, dangling?, h.registry.target?_eq, h.registry.packageName_eq]
  rw [dangling_resolve_eq, dangling_resolve_eq, hdangling]
  exact h.registry.components.flatMap_right _

end Assets.SameUpToOrder

/-! ### Resolutions -/

/-- Two resolutions are the same apart from the order of their lists and from the members by which
sub-panels were found first. -/
structure Resolution.SameUpToOrder (r s : Resolution) : Prop where
  registry : r.registry.SameUpToOrder s.registry
  exports : r.exports.keys.Perm s.exports.keys
  panels : r.walk.panels.Perm s.walk.panels
  subPanels : r.walk.found.Perm s.walk.found
  dangling : r.dangling.Perm s.dangling

/-- Resolving what is the same apart from the order. -/
lemma Assets.SameUpToOrder.resolve {a b : Assets} (h : a.SameUpToOrder b) (config : Config) :
    (a.resolve config).SameUpToOrder (b.resolve config) where
  registry := h.registry_resolve config
  exports := h.keys_exports_perm config
  panels := by
    rw [panels_resolve, panels_resolve]
    exact h.registry.rootPanels_perm
  subPanels := by
    rw [walk_resolve, walk_resolve]
    exact h.found_walk_perm config
  dangling := h.dangling_perm config

/-- **The order of the packages does not matter**: a parsing of package folders comes to its end in
every order of the folders or in none, and then the resolutions are the same apart from the order of
their lists and from the members by which sub-panels were found first. -/
theorem Disk.resolve_parse_perm {d : Disk} {folders folders' : List Path}
    (h : folders.Perm folders') :
    ((∃ a, (d.parse folders).outcome = .ok a) ↔ ∃ b, (d.parse folders').outcome = .ok b) ∧
    ∀ a b, (d.parse folders).outcome = .ok a → (d.parse folders').outcome = .ok b →
      ∀ config, (a.resolve config).SameUpToOrder (b.resolve config) := by
  refine ⟨exists_parse_perm h, fun a b ha hb config => ?_⟩
  exact (sameUpToOrder_of_parse h ha hb).resolve config

/-! ### Two packages that hold each other -/

namespace Disk

/-- The manifest of a package that has a root panel and nothing else. -/
def facingManifest (id name : String) : String :=
  "<package id='" ++ id ++ "'><resources><component id='0' name='" ++ name ++
    "Panel.xml'/></resources><publish/></package>"

/-- A root panel that holds the root panel of another package. -/
def facingPanel (other : String) : String :=
  "<component><displayList><component name='facing' pkg='" ++ other ++
    "' src='0'/></displayList></component>"

/-- A disk with two packages whose root panels hold each other. -/
def facing : Disk where
  entries := .ofList
    [⟨["A"], .folder⟩, ⟨["A", "package.xml"], .file (facingManifest "a" "A").toUTF8⟩,
      ⟨["A", "APanel.xml"], .file (facingPanel "b").toUTF8⟩,
      ⟨["B"], .folder⟩, ⟨["B", "package.xml"], .file (facingManifest "b" "B").toUTF8⟩,
      ⟨["B", "BPanel.xml"], .file (facingPanel "a").toUTF8⟩]
  workingFolder := []

/-- The identifiers of the two packages, with the names of their folders. -/
def facingPackages : List (String × String) := [("a", "A"), ("b", "B")]

/-- The paths of the manifests lead to them. -/
lemma locate_facing {id name : String} (h : (id, name) ∈ facingPackages) :
    facing.locate (Path.join ⟨name⟩ Package.manifestFile) =
        .ok (.present [name, Package.manifestFile]) ∧
      facing.content? [name, Package.manifestFile] =
        some (.file (facingManifest id name).toUTF8) := by
  have hpaths : ∀ row ∈ facingPackages,
      Path.parts (Path.join ⟨row.2⟩ Package.manifestFile) = [row.2, Package.manifestFile] ∧
      Path.isAbsolute (Path.join ⟨row.2⟩ Package.manifestFile) = false ∧
      (Path.join ⟨row.2⟩ Package.manifestFile).text ≠ "" ∧
      (Path.join ⟨row.2⟩ Package.manifestFile).text.toList.contains '\x00' = false ∧
      ¬ pathLimit < (Path.join ⟨row.2⟩ Package.manifestFile).text.utf8ByteSize := by
    decide +kernel
  have hnames : ∀ name ∈ ["A", "B", "package.xml"], ¬ nameLimit < name.utf8ByteSize := by
    decide +kernel
  obtain ⟨hparts, habsolute, hnonempty, hzero, hsize⟩ := hpaths _ h
  rw [locate, hzero, if_neg (by simp), if_neg hnonempty, if_neg hsize, habsolute, hparts]
  simp only [List.forall_mem_cons] at hnames
  simp only [facingPackages, List.mem_cons, Prod.mk.injEq, List.not_mem_nil, or_false] at h
  rcases h with ⟨rfl, rfl⟩ | ⟨rfl, rfl⟩ <;>
    simp [follow, facing, Package.manifestFile, holdsFolder, content?, Catalog.ofList,
      Catalog.find?_insert, Content.isFolder, hnames]

/-- Both folders are packages. -/
lemma readPackage_facing {id name : String} (h : (id, name) ∈ facingPackages) :
    ∃ p files, facing.readPackage ⟨name⟩ = .accepted p files ∧ p.id = id := by
  have hmanifests : ∀ row ∈ facingPackages, ((Xml.Element.read? (facingManifest row.1 row.2)).bind
      fun root => (Package.ofManifestFile root ⟨row.2⟩ ((Path.fileName? ⟨row.2⟩).getD "")
        (Path.join ⟨row.2⟩ Package.manifestFile).text).toOption.map Package.id) = some row.1 := by
    decide +kernel
  obtain ⟨root, hroot, hp⟩ := Option.bind_eq_some_iff.mp (hmanifests _ h)
  obtain ⟨p, hp, hid⟩ := Option.map_eq_some_iff.mp hp
  obtain ⟨hplace, hcontent⟩ := locate_facing h
  have hread := readElement_of_readText (readText_of_locate hplace hcontent) hroot
  have hfile : facing.isFile (Path.join ⟨name⟩ Package.manifestFile) = true := by
    rw [isFile, find?]
    rw [hplace]
    simp [hcontent]
  refine ⟨p, _, readPackage_eq_accepted_iff.mpr ⟨hfile, ⟨root, hread, ?_⟩, rfl⟩, hid⟩
  exact eq_ok_of_toOption_eq_some hp

/-- Read in one order or in the other, the packages are registered in that order, and the
resolutions are the same apart from it. -/
theorem resolve_parse_facing :
    [⟨"A"⟩, ⟨"B"⟩].Perm [(⟨"B"⟩ : Path), ⟨"A"⟩] ∧
    ∃ a b, (facing.parse [⟨"A"⟩, ⟨"B"⟩]).outcome = .ok a ∧
      (facing.parse [⟨"B"⟩, ⟨"A"⟩]).outcome = .ok b ∧
      a.registry.packages.keys = ["a", "b"] ∧ b.registry.packages.keys = ["b", "a"] ∧
      ∀ config, (a.resolve config).SameUpToOrder (b.resolve config) := by
  have hperm : [⟨"A"⟩, ⟨"B"⟩].Perm [(⟨"B"⟩ : Path), ⟨"A"⟩] := .swap _ _ _
  obtain ⟨p, files, hp, hid⟩ := readPackage_facing (show ("a", "A") ∈ facingPackages by decide)
  obtain ⟨q, files', hq, hid'⟩ := readPackage_facing (show ("b", "B") ∈ facingPackages by decide)
  have hids : PackageFolder.packageIds ([⟨"A"⟩, ⟨"B"⟩].map facing.readPackage) = ["a", "b"] := by
    simp [hp, hq, hid, hid', PackageFolder.packageIds, PackageFolder.packages]
  have hids' : PackageFolder.packageIds ([⟨"B"⟩, ⟨"A"⟩].map facing.readPackage) = ["b", "a"] := by
    simp [hp, hq, hid, hid', PackageFolder.packageIds, PackageFolder.packages]
  have hends : ∃ a, (facing.parse [⟨"A"⟩, ⟨"B"⟩]).outcome = .ok a := by
    rw [exists_parse_iff, hids]
    simp [hp, hq]
  obtain ⟨hboth, hsame⟩ := resolve_parse_perm hperm
  obtain ⟨a, ha⟩ := hends
  obtain ⟨b, hb⟩ := hboth.mp ⟨a, ha⟩
  exact ⟨hperm, a, b, ha, hb, (keys_of_parse ha).trans hids, (keys_of_parse hb).trans hids',
    hsame a b ha hb⟩

end Disk

end UiBinding
