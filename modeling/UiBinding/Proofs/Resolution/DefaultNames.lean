/-
Default names: what a resolution that leaves them out keeps of one that includes them.

The two resolutions begin with the same registry.  Fewer parts become fields, so fewer edges are
there to be walked, and what root panels lead to becomes less, and nothing becomes more.

* `IsNumbered` says of a name that it is a letter with a number behind it;
* `underRootPanel_mono`: with more references, root panels lead to more;
* `Component.Narrows` compares one component of the two resolutions;
* `resolve_narrows`: whatever is exposed, exported, reached or reported where default names are left
  out is so where they are included.
-/
import UiBinding.Proofs.Resolution.Records
import UiBinding.Proofs.Resolution.Settled

namespace UiBinding

/-! ### Default names -/

/-- A name that is a given letter with one or more decimal digits behind it. -/
def IsNumbered (letter : Char) (name : String) : Prop :=
  ∃ digits : List Char, digits ≠ [] ∧ (∀ d ∈ digits, '0' ≤ d ∧ d ≤ '9') ∧
    name.toList = letter :: digits

/-- The editor's names for display objects and controllers are numbered letters. -/
lemma isDefaultName_iff_isNumbered {letter : Char} {name : String} :
    isDefaultName letter name = true ↔ IsNumbered letter name := by
  have hdigit : ∀ d : Char, d.isDigit = true ↔ '0' ≤ d ∧ d ≤ '9' := by
    intro d
    simp only [Char.isDigit, Bool.and_eq_true, decide_eq_true_eq]
    exact Iff.rfl
  rw [isDefaultName_iff, IsNumbered]
  simp only [hdigit]

/-- Where default names are left out, a member becomes a field exactly when it does elsewhere and
has no default name. -/
lemma isExposedMember_true_iff {name : String} {kind : DisplayKind} :
    isExposedMember true name kind = true ↔
      isExposedMember false name kind = true ∧ ¬ IsNumbered 'n' name := by
  rw [← isDefaultName_iff_isNumbered]
  simp [isExposedMember]

/-- The same for controllers. -/
lemma isExposedController_true_iff {name : String} :
    isExposedController true name = true ↔
      isExposedController false name = true ∧ ¬ IsNumbered 'c' name := by
  rw [← isDefaultName_iff_isNumbered]
  simp [isExposedController]

/-! ### Root panels lead to more where there are more references -/

namespace Registry

/-- With more references, root panels lead to more. -/
lemma underRootPanel_mono {r : Registry} {f g : Component → Component}
    {hf : ∀ c, (f c).key = c.key} {hg : ∀ c, (g c).key = c.key}
    (hkind : ∀ c, (f c).kind = (g c).kind) (hmore : ∀ c, (f c).references ⊆ (g c).references)
    {key : Component.Key} (h : (r.mapComponents f hf).UnderRootPanel key) :
    (r.mapComponents g hg).UnderRootPanel key := by
  obtain ⟨root, hroot, hpath⟩ := h
  refine ⟨root, ?_, Relation.TransGen.mono (fun a b hab => ?_) root key hpath⟩
  · simpa [IsRootPanel] using hroot
  · obtain ⟨_, hc, href, _, ht, hplain⟩ := hab
    rw [component?_mapComponents] at hc
    rw [target?_mapComponents] at ht
    obtain ⟨c, hfound, rfl⟩ := Option.map_eq_some_iff.mp hc
    obtain ⟨t, htarget, rfl⟩ := Option.map_eq_some_iff.mp ht
    refine ⟨g c, ?_, hmore c href, g t, ?_, (hkind t).symm.trans hplain⟩
    · rw [component?_mapComponents, hfound, Option.map_some]
    · rw [target?_mapComponents, htarget, Option.map_some]

end Registry

/-- What the fields of a component refer to, once the export pass has decided on them. -/
lemma Component.references_decideExport (requests : ExportRequests) (config : Config)
    (c : Component) : (c.decideExport requests config).references =
      (c.members.filter fun m => isExposedMember config.ignoreDefaultNames m.name m.kind).filterMap
        (Member.target? c.packageId) := by
  simp only [references, exposedMembers, decideExport, expose, List.filter_map,
    List.filterMap_map]
  rfl

/-! ### The two resolutions -/

/-- A configuration that leaves default names out or includes them. -/
def Config.ignoring (config : Config) (ignore : Bool) : Config :=
  { config with ignoreDefaultNames := ignore }

/-- A component beside what it is where default names are included: of its parts those without a
default name are exposed, and it is marked only if it is marked there. -/
structure Component.Narrows (c full : Component) : Prop where
  key : c.key = full.key
  members : List.Forall₂ (fun m n => m.node = n.node ∧
    (m.exposed = true ↔ n.exposed = true ∧ ¬ IsNumbered 'n' n.name)) c.members full.members
  controllers : List.Forall₂ (fun k l => k.node = l.node ∧
    (k.exposed = true ↔ l.exposed = true ∧ ¬ IsNumbered 'c' l.name)) c.controllers full.controllers
  exported : c.exported = true → full.exported = true
  reachable : c.reachable = true → full.reachable = true

namespace Assets

variable (a : Assets) (config : Config)

/-- The members that become fields where default names are left out are among those that become
fields where they are included. -/
lemma exposed_sublist (members : List Member) :
    (members.filter fun m =>
      isExposedMember (config.ignoring true).ignoreDefaultNames m.name m.kind).Sublist
    (members.filter fun m =>
      isExposedMember (config.ignoring false).ignoreDefaultNames m.name m.kind) :=
  List.monotone_filter_right _ fun _ => isExposedMember_mono

/-- The walk lists more where default names are included. -/
lemma keys_walk_subset :
    (a.walk (config.ignoring true)).keys ⊆ (a.walk (config.ignoring false)).keys := by
  have hkind : ∀ c : Component,
      (c.decideExport a.requests (config.ignoring true)).kind =
        (c.decideExport a.requests (config.ignoring false)).kind := fun _ => rfl
  have hmore : ∀ c : Component,
      (c.decideExport a.requests (config.ignoring true)).references ⊆
        (c.decideExport a.requests (config.ignoring false)).references := by
    intro c
    rw [Component.references_decideExport, Component.references_decideExport]
    exact ((exposed_sublist config c.members).filterMap _).subset
  intro key hkey
  rw [mem_keys_walk_iff_exportPass, registry_exportPass_eq] at hkey ⊢
  exact Registry.underRootPanel_mono hkind hmore hkey

/-- A settled component beside what is settled for it where default names are included. -/
lemma settle_narrows (c : Component) :
    (a.settle (config.ignoring true) c).Narrows (a.settle (config.ignoring false) c) := by
  have hwalk := a.keys_walk_subset config
  obtain ⟨hexported, hreachable⟩ := a.marks_settle (config.ignoring true) c
  obtain ⟨hexportedFull, hreachableFull⟩ := a.marks_settle (config.ignoring false) c
  refine ⟨?_, ?_, ?_, fun h => ?_, fun h => ?_⟩
  · rw [key_settle, key_settle]
  · rw [members_settle, members_settle, List.forall₂_map_left_iff, List.forall₂_map_right_iff,
      List.forall₂_same]
    exact fun m _ => ⟨rfl, isExposedMember_true_iff⟩
  · rw [controllers_settle, controllers_settle, List.forall₂_map_left_iff,
      List.forall₂_map_right_iff, List.forall₂_same]
    exact fun k _ => ⟨rfl, isExposedController_true_iff⟩
  · exact hexportedFull.mpr ((hexported.mp h).imp_left fun hkey => hwalk hkey)
  · exact hreachableFull.mpr ((hreachable.mp h).imp_left fun hkey => hwalk hkey)

/-- **Including default names takes nothing away**: where they are left out, exactly the members and
controllers without a default name are exposed of those that are exposed elsewhere; the root panels
are the same; whatever is a sub-panel, exported or reachable is so where they are included; and the
dangling references are among those that are reported there, in the same order. -/
theorem resolve_narrows :
    List.Forall₂ Component.Narrows
      (a.resolve (config.ignoring true)).registry.components.items
      (a.resolve (config.ignoring false)).registry.components.items ∧
    (a.resolve (config.ignoring true)).walk.panels =
      (a.resolve (config.ignoring false)).walk.panels ∧
    (a.resolve (config.ignoring true)).walk.keys ⊆
      (a.resolve (config.ignoring false)).walk.keys ∧
    (a.resolve (config.ignoring true)).exports.keys ⊆
      (a.resolve (config.ignoring false)).exports.keys ∧
    (a.resolve (config.ignoring true)).dangling.Sublist
      (a.resolve (config.ignoring false)).dangling := by
  refine ⟨?_, ?_, ?_, fun key hkey => ?_, ?_⟩
  · rw [registry_resolve_eq, registry_resolve_eq, Registry.items_mapComponents,
      Registry.items_mapComponents, List.forall₂_map_left_iff, List.forall₂_map_right_iff,
      List.forall₂_same]
    exact fun c _ => a.settle_narrows config c
  · rw [panels_resolve, panels_resolve]
  · rw [walk_resolve, walk_resolve]
    exact a.keys_walk_subset config
  · rw [mem_keys_exports_resolve_iff, registry_resolve_eq, Registry.component?_mapComponents]
      at hkey ⊢
    obtain ⟨_, hsettled, hexported⟩ := hkey
    obtain ⟨c, hfound, rfl⟩ := Option.map_eq_some_iff.mp hsettled
    refine ⟨a.settle (config.ignoring false) c, ?_, (a.settle_narrows config c).exported hexported⟩
    rw [hfound, Option.map_some]
  · rw [dangling_resolve_eq, dangling_resolve_eq]
    exact List.Sublist.flatMap_right _ fun c _ => (exposed_sublist config c.members).filterMap _

end Assets

end UiBinding
