/-
Independence: what a resolution finds out apart from the exports.

Class names flow into the types of references, and types decide which edges the walk follows.  But
of a type the walk sees only where it leads, so nothing of what is declared exported, requested or
named comes back out of the walk.  Two resolutions of the same packages and components may differ in
their exports, and agree in everything else.

* `Assets.SameContent`: the same packages and components, declared exported or not;
* `Component.outline` is a component without what tells of exports;
* `SameContent.walk_eq` and `SameContent.outline_settle`: the walks are the same, and so is what is
  settled for a component, apart from its export;
* `resolve_independent`: a resolution does not depend on the exports, apart from them.
-/
import UiBinding.Proofs.Resolution.Links
import UiBinding.Proofs.Resolution.Reachability

namespace UiBinding

/-! ### What does not tell of exports -/

/-- The type of a field without the class that may be generated for its target. -/
def Member.Typing.outline : Typing → Typing
  | component target kind _ => .component target kind kind.baseType
  | typing => typing

/-- A member without the name of the class that its type may show. -/
def Member.outline (m : Member) : Member := { m with typing? := m.typing?.map Typing.outline }

/-- A component without its export: whether it is declared exported, whether it is exported and
under which class name, and the class names that the types of its members show. -/
def Component.outline (c : Component) : Component :=
  { c with
    declaredExported := false
    exported := false
    className? := none
    members := c.members.map Member.outline }

namespace Registry

variable {r s : Registry}

/-- Without class names the type of a member depends on the kinds of the components only. -/
lemma outline_typing? (h : ∀ key, (r.target? key).map Component.kind =
      (s.target? key).map Component.kind) (owner : String) (m : Member) :
    (r.typing? owner m).map Member.Typing.outline =
      (s.typing? owner m).map Member.Typing.outline := by
  have hreference : Member.Typing.outline ∘ r.referenceTyping =
      Member.Typing.outline ∘ s.referenceTyping := by
    funext key
    have hkind := h key
    simp only [Function.comp_apply, referenceTyping]
    cases hr : r.target? key with
    | none =>
        rw [hr, Option.map_none, eq_comm, Option.map_eq_none_iff] at hkind
        rw [hkind]
    | some c =>
        rw [hr, Option.map_some, eq_comm, Option.map_eq_some_iff] at hkind
        obtain ⟨d, hs, hkind⟩ := hkind
        simp only [hs, Member.Typing.outline, hkind]
  rw [typing?, typing?]
  cases m.kind.baseType? with
  | some baseType => rfl
  | none => rw [Option.map_map, Option.map_map, hreference]

end Registry

namespace Assets

/-- What the walk sees of a component comes of it alone, and of how default names are treated. -/
lemma visible_prepare (a : Assets) (config : Config) (c : Component) :
    (a.prepare config c).visible = (c.expose config.ignoreDefaultNames).visible := by
  rw [prepare, Registry.visible_resolveComponent]
  rfl

/-- After the sub-panels have been exported, references lead to components of the same kinds. -/
lemma kind_target?_reachPass (a : Assets) (config : Config) (key : Component.Key) :
    ((a.reachPass config).registry.target? key).map Component.kind =
      (a.registry.target? key).map Component.kind := by
  rw [registry_reachPass_eq, Registry.target?_mapComponents, Option.map_map]
  refine congrArg (Option.map · _) (funext fun c => ?_)
  exact (a.references_joinWalk config _).2

end Assets

/-! ### The same content -/

/-- The same packages, and the same components in the same order, which may be declared exported in
the one and not in the other.  Nothing is said of what is requested. -/
structure Assets.SameContent (a b : Assets) : Prop where
  packages : a.registry.packages = b.registry.packages
  components : List.Forall₂ (fun c d => ∃ declared, d = { c with declaredExported := declared })
    a.registry.components.items b.registry.components.items

/-- The same assets with every component declared exported. -/
def Assets.declareAll (a : Assets) : Assets :=
  ⟨a.registry.mapComponents (fun c => { c with declaredExported := true }) fun _ => rfl, a.requests⟩

/-- Declaring components exported keeps the content. -/
lemma Assets.sameContent_declareAll (a : Assets) : a.SameContent a.declareAll where
  packages := rfl
  components := List.forall₂_map_right_iff.mpr (List.forall₂_same.mpr fun _ _ => ⟨true, rfl⟩)

namespace Assets.SameContent

variable {a b : Assets} (h : a.SameContent b)

include h

/-- What is read off every component apart from its declaration is the same. -/
lemma map_eq {α : Type} {f g : Component → α}
    (hfg : ∀ (c : Component) declared, f c = g { c with declaredExported := declared }) :
    a.registry.components.items.map f = b.registry.components.items.map g := by
  rw [← List.forall₂_eq_eq_eq, List.forall₂_map_left_iff, List.forall₂_map_right_iff]
  refine h.components.imp ?_
  rintro c _ ⟨declared, rfl⟩
  exact hfg c declared

lemma package?_eq : a.registry.package? = b.registry.package? := by
  funext id
  rw [Registry.package?, Registry.package?, h.packages]

/-- References lead to components of the same kinds. -/
lemma kind_target? (key : Component.Key) :
    (a.registry.target? key).map Component.kind = (b.registry.target? key).map Component.kind := by
  have hkinds := Registry.map_component?_congr Prod.fst (fun _ => rfl)
    (h.map_eq (f := fun c => (c.key, c.kind)) fun _ _ => rfl) key
  have hkind := congrArg (Option.map Prod.snd) hkinds
  rw [Option.map_map, Option.map_map] at hkind
  rw [Registry.target?, Registry.target?, h.package?_eq, Option.map_bind, Option.map_bind]
  exact congrArg (Option.bind _) (funext fun _ => hkind)

/-! ### The passes -/

variable {config config' : Config}
  (hnames : config.ignoreDefaultNames = config'.ignoreDefaultNames)

include hnames

/-- **The walks are the same.** -/
lemma walk_eq : a.walk config = b.walk config' := by
  refine Registry.walk_eq_of_visible (Registry.resolveTypes_resolveTypes _)
    (Registry.resolveTypes_resolveTypes _) ?_ ?_
  · exact h.packages
  · rw [registry_typePass_eq, registry_typePass_eq, Registry.items_mapComponents,
      Registry.items_mapComponents, List.map_map, List.map_map]
    refine h.map_eq fun c declared => ?_
    rw [Function.comp_apply, Function.comp_apply, visible_prepare, visible_prepare, hnames]
    rfl

/-- The members of a component are settled in the same way, apart from class names. -/
lemma outline_members_settle (c : Component) (declared : Bool) :
    (a.settle config c).members.map Member.outline =
      (b.settle config' { c with declaredExported := declared }).members.map Member.outline := by
  have hkinds : ∀ key, ((a.reachPass config).registry.target? key).map Component.kind =
      ((b.reachPass config').registry.target? key).map Component.kind := by
    intro key
    rw [kind_target?_reachPass, kind_target?_reachPass, h.kind_target?]
  rw [members_settle, members_settle, List.map_map, List.map_map]
  refine List.map_congr_left fun m _ => ?_
  simp only [Function.comp_apply, Registry.resolveMember, Member.outline, hnames]
  split
  · rw [Registry.outline_typing? hkinds]
  · rfl

/-- **A component is settled in the same way**, apart from its export. -/
lemma outline_settle (c : Component) (declared : Bool) :
    (a.settle config c).outline =
      (b.settle config' { c with declaredExported := declared }).outline := by
  have hmembers := h.outline_members_settle hnames c declared
  have hcontrollers : (a.settle config c).controllers =
      (b.settle config' { c with declaredExported := declared }).controllers := by
    rw [controllers_settle, controllers_settle, hnames]
  have hreachable : (a.settle config c).reachable =
      (b.settle config' { c with declaredExported := declared }).reachable := by
    rw [Bool.eq_iff_iff, (a.marks_settle config _).2, (b.marks_settle config' _).2,
      h.walk_eq hnames]
    rfl
  rw [Component.outline, Component.outline, hmembers, hcontrollers, hreachable, settle_eq,
    settle_eq b]

/-- The same references dangle. -/
lemma dangling_eq : (a.resolve config).dangling = (b.resolve config').dangling := by
  have htarget : ∀ key, (a.registry.target? key).isNone = (b.registry.target? key).isNone := by
    intro key
    simpa using congrArg Option.isNone (h.kind_target? key)
  have hname : a.registry.packageName = b.registry.packageName := by
    funext id
    rw [Registry.packageName, Registry.packageName, h.package?_eq]
  rw [dangling_resolve_eq, dangling_resolve_eq, List.flatMap_def, List.flatMap_def]
  refine congrArg List.flatten (h.map_eq fun c declared => ?_)
  rw [hnames]
  refine List.filterMap_congr fun m _ => ?_
  simp only [dangling?, htarget, hname]
  rfl

end Assets.SameContent

namespace Assets

/-- **Independence of the exports**: if the same packages and components are resolved, declared
exported or not, with any requests and under any class names, but with default names treated alike,
then the walks are the same, the same references dangle, and the components are the same apart from
their exports and from the class names that types show. -/
theorem resolve_independent {a b : Assets} (h : a.SameContent b) {config config' : Config}
    (hnames : config.ignoreDefaultNames = config'.ignoreDefaultNames) :
    (a.resolve config).walk = (b.resolve config').walk ∧
    (a.resolve config).dangling = (b.resolve config').dangling ∧
    (a.resolve config).registry.packages = (b.resolve config').registry.packages ∧
    (a.resolve config).registry.components.items.map Component.outline =
      (b.resolve config').registry.components.items.map Component.outline := by
  refine ⟨?_, h.dangling_eq hnames, ?_, ?_⟩
  · rw [walk_resolve, walk_resolve, h.walk_eq hnames]
  · rw [registry_resolve_eq, registry_resolve_eq]
    exact h.packages
  · rw [registry_resolve_eq, registry_resolve_eq, Registry.items_mapComponents,
      Registry.items_mapComponents, List.map_map, List.map_map]
    exact h.map_eq (h.outline_settle hnames)

/-- Two components that hold each other are found in turn from the root panel, whatever is declared
exported; only the names of their classes differ. -/
theorem resolve_independent_cyclic :
    let prefixed : Config := { classNamePrefix := "Ui" }
    cyclic.SameContent cyclic.declareAll ∧
      ({} : Config).ignoreDefaultNames = prefixed.ignoreDefaultNames ∧
      (cyclic.resolve {}).walk = (cyclic.declareAll.resolve prefixed).walk ∧
      (cyclic.resolve {}).walk.keys = [⟨"p", "b"⟩, ⟨"p", "a"⟩] ∧
      (cyclic.resolve {}).registry.components.items.map Component.outline =
        (cyclic.declareAll.resolve prefixed).registry.components.items.map Component.outline ∧
      (cyclic.resolve {}).registry.components.items ≠
        (cyclic.declareAll.resolve prefixed).registry.components.items := by
  intro prefixed
  have hcontent := cyclic.sameContent_declareAll
  have hnames : ({} : Config).ignoreDefaultNames = prefixed.ignoreDefaultNames := rfl
  obtain ⟨hwalk, -, -, houtline⟩ := resolve_independent hcontent hnames
  have hkeys : (cyclic.resolve {}).walk.keys = [⟨"p", "b"⟩, ⟨"p", "a"⟩] := by cbv
  have hclass : ((cyclic.resolve {}).registry.components.items.map Component.className?) ≠
      (cyclic.declareAll.resolve prefixed).registry.components.items.map Component.className? := by
    have hplain : (cyclic.resolve {}).registry.components.items.map Component.className? =
        [some "FUI_MainPanel", some "FUI_Row"] := by cbv
    have hprefixed : (cyclic.declareAll.resolve
        { classNamePrefix := "Ui" }).registry.components.items.map Component.className? =
        [some "UiMainPanel", some "UiRow"] := by cbv
    rw [hplain, hprefixed]
    decide
  exact ⟨hcontent, hnames, hwalk, hkeys, houtline, fun heq => hclass (by rw [heq])⟩

end Assets

end UiBinding
