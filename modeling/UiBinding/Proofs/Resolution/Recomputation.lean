/-
Recomputation: what a resolution takes over from the notes of earlier passes.

It takes over the reachable marks and nothing else.  Exports, class names and exposed parts are
decided anew from what was authored, and the type pass, which reads the class names, comes after
that.  So when the walk begins there is nothing left of the old notes.

* `Component.resolveComponent_decideExport`: the export pass and the type pass, made on one
  component, read what was authored and the reachable mark;
* `SameAuthored.typePass_eq`: when the walk begins, registries that differ in other notes agree;
* `resolve_withWarnings`: the warnings are carried along, and nothing depends on them;
* `resolve_recomputed`: a resolution does not depend on other notes.
-/
import UiBinding.Proofs.Resolution.Annotation
import UiBinding.Proofs.Resolution.Independence

namespace UiBinding

/-! ### One component -/

namespace Component

variable (requests : ExportRequests) (config : Config) {c d : Component}

/-- What the export pass and the type pass make of a component depends on what was authored and on
the reachable mark. -/
lemma resolveComponent_decideExport (hauthored : c.authored = d.authored)
    (hreachable : c.reachable = d.reachable) (r : Registry) :
    r.resolveComponent (c.decideExport requests config) =
      r.resolveComponent (d.decideExport requests config) := by
  have hkept : ∀ e : Component, r.resolveComponent (e.decideExport requests config) =
      r.resolveComponent
        (Component.decideExport requests config { e.authored with reachable := e.reachable }) := by
    intro e
    simp only [Registry.resolveComponent, decideExport, expose, authored, List.map_map]
    rfl
  rw [hkept c, hkept d, hauthored, hreachable]

/-- What the type pass reads of a component, the class name among it, is decided anew. -/
lemma reference_decideExport (hauthored : c.authored = d.authored)
    (hreachable : c.reachable = d.reachable) :
    ((c.decideExport requests config).key, (c.decideExport requests config).kind,
        (c.decideExport requests config).className?) =
      ((d.decideExport requests config).key, (d.decideExport requests config).kind,
        (d.decideExport requests config).className?) := by
  have hsame := congrArg (fun e : Component => (e.key, e.kind, e.className?))
    (resolveComponent_decideExport requests config hauthored hreachable default)
  exact hsame

/-- The export pass and the type pass leave what was authored and the reachable mark. -/
lemma authored_resolveComponent_decideExport (c : Component) (r : Registry) :
    (r.resolveComponent (c.decideExport requests config)).authored = c.authored ∧
      (r.resolveComponent (c.decideExport requests config)).reachable = c.reachable := by
  refine ⟨?_, rfl⟩
  simp only [Registry.resolveComponent, decideExport, expose, authored, List.map_map]
  rfl

end Component

namespace Registry

/-- The types of references depend on the packages, and on the kinds and the class names of the
components. -/
lemma referenceTyping_congr {r s : Registry} (hpackages : r.packages = s.packages)
    (h : r.components.items.map (fun c => (c.key, c.kind, c.className?)) =
      s.components.items.map fun c => (c.key, c.kind, c.className?)) :
    r.referenceTyping = s.referenceTyping := by
  funext key
  have hfound := map_component?_congr Prod.fst (fun _ => rfl) h key
  have htyping : ∀ t : Registry, t.referenceTyping key =
      (((t.packages.find? key.packageId).bind fun _ =>
        (t.component? key).map fun c => (c.key, c.kind, c.className?)).map fun found =>
          Member.Typing.component key found.2.1 (found.2.2.getD found.2.1.baseType)).getD
            (.dangling key) := by
    intro t
    rw [referenceTyping, target?, package?]
    cases t.packages.find? key.packageId <;> cases t.component? key <;> rfl
  rw [htyping, htyping, hpackages, hfound]

/-- The same registry with other warnings. -/
def withWarnings (r : Registry) (warnings : List Diagnostic) : Registry :=
  { r with warnings := warnings }

lemma withWarnings_eq_self {r : Registry} {warnings : List Diagnostic}
    (h : r.warnings = warnings) : r.withWarnings warnings = r := by
  rw [withWarnings, ← h]

end Registry

/-! ### Warnings -/

/-- The same pass over a registry with other warnings. -/
def ExportPass.withWarnings (p : ExportPass) (warnings : List Diagnostic) : ExportPass :=
  { p with registry := p.registry.withWarnings warnings }

/-- The same resolution of a registry with other warnings. -/
def Resolution.withWarnings (r : Resolution) (warnings : List Diagnostic) : Resolution :=
  { r with registry := r.registry.withWarnings warnings }

namespace Resolution

variable (r : Resolution) (warnings : List Diagnostic)

lemma registry_withWarnings :
    (r.withWarnings warnings).registry = r.registry.withWarnings warnings := rfl

lemma exports_withWarnings : (r.withWarnings warnings).exports = r.exports := rfl

lemma walk_withWarnings : (r.withWarnings warnings).walk = r.walk := rfl

lemma dangling_withWarnings : (r.withWarnings warnings).dangling = r.dangling := rfl

end Resolution

/-- The same assets with other warnings. -/
def Assets.withWarnings (a : Assets) (warnings : List Diagnostic) : Assets :=
  { a with registry := a.registry.withWarnings warnings }

namespace ExportPass

variable (config : Config) (p : ExportPass) (warnings : List Diagnostic)

/-- One step carries the warnings along. -/
lemma reach_withWarnings (key : Component.Key) :
    (p.withWarnings warnings).reach config key = (p.reach config key).withWarnings warnings := by
  have hregistered : (p.withWarnings warnings).registry.component? key =
      p.registry.component? key := rfl
  have hexports : (p.withWarnings warnings).exports = p.exports := rfl
  rw [reach, reach, hregistered, hexports]
  split
  · rfl
  · split <;> rfl

/-- Exporting what root panels lead to carries the warnings along. -/
lemma reachAll_withWarnings (keys : List Component.Key) :
    (p.withWarnings warnings).reachAll config keys =
      (p.reachAll config keys).withWarnings warnings := by
  induction keys generalizing p with
  | nil => rfl
  | cons key rest ih =>
      rw [reachAll, List.foldl_cons, reach_withWarnings, ← reachAll, ih]
      rfl

end ExportPass

namespace Assets

variable (a : Assets) (config : Config) (warnings : List Diagnostic)

lemma typePass_withWarnings :
    (a.withWarnings warnings).typePass config = (a.typePass config).withWarnings warnings := rfl

lemma walk_withWarnings : (a.withWarnings warnings).walk config = a.walk config := rfl

lemma reachPass_withWarnings :
    (a.withWarnings warnings).reachPass config = (a.reachPass config).withWarnings warnings := by
  rw [reachPass, typePass_withWarnings, walk_withWarnings, ExportPass.reachAll_withWarnings]
  rfl

/-- A resolution carries the warnings along, and nothing else depends on them. -/
lemma resolve_withWarnings :
    (a.withWarnings warnings).resolve config = (a.resolve config).withWarnings warnings := by
  have hadded : ((a.reachPass config).withWarnings warnings).added =
      (a.reachPass config).added := rfl
  rw [resolve, resolve, reachPass_withWarnings, typePass_withWarnings, walk_withWarnings]
  dsimp only
  rw [hadded]
  split <;> rfl

/-- What a resolution finds out is decided by the registry when the walk begins. -/
lemma resolve_eq_of_typePass {a b : Assets} {config : Config}
    (h : a.typePass config = b.typePass config) : a.resolve config = b.resolve config := by
  rw [resolve, resolve, reachPass, reachPass, walk, walk, h]

end Assets

/-! ### The same was authored -/

/-- The same packages, requests and components in the same order, with the same reachable marks.
Nothing is said of the other notes, nor of the warnings. -/
structure Assets.SameAuthored (a b : Assets) : Prop where
  packages : a.registry.packages = b.registry.packages
  components : List.Forall₂ (fun c d => c.authored = d.authored ∧ c.reachable = d.reachable)
    a.registry.components.items b.registry.components.items
  requests : a.requests = b.requests

/-- The export pass and the type pass, under any configuration, leave what was authored. -/
lemma Assets.sameAuthored_typePass (a : Assets) (config : Config) :
    a.SameAuthored ⟨(a.typePass config).registry, a.requests⟩ where
  packages := rfl
  components := by
    rw [registry_typePass_eq, Registry.items_mapComponents, List.forall₂_map_right_iff,
      List.forall₂_same]
    intro c _
    obtain ⟨hauthored, hreachable⟩ := c.authored_resolveComponent_decideExport a.requests config
      (a.exportPass config).registry
    exact ⟨hauthored.symm, hreachable.symm⟩
  requests := rfl

namespace Assets.SameAuthored

variable {a b : Assets} (h : a.SameAuthored b) (config : Config)

include h

/-- What depends on what was authored and on the reachable mark is the same for all components. -/
lemma map_eq {α : Type} {f : Component → α}
    (hf : ∀ c d : Component, c.authored = d.authored → c.reachable = d.reachable → f c = f d) :
    a.registry.components.items.map f = b.registry.components.items.map f := by
  rw [← List.forall₂_eq_eq_eq, List.forall₂_map_left_iff, List.forall₂_map_right_iff]
  exact h.components.imp fun c d ⟨hauthored, hreachable⟩ => hf c d hauthored hreachable

/-- After the export pass the types of references are the same. -/
lemma referenceTyping_exportPass :
    (a.exportPass config).registry.referenceTyping =
      (b.exportPass config).registry.referenceTyping := by
  refine Registry.referenceTyping_congr h.packages ?_
  rw [registry_exportPass_eq, registry_exportPass_eq, Registry.items_mapComponents,
    Registry.items_mapComponents, List.map_map, List.map_map, h.requests]
  exact h.map_eq fun c d => Component.reference_decideExport b.requests config

/-- When the walk begins the components are the same. -/
lemma components_typePass : (a.typePass config).registry.components =
    (b.typePass config).registry.components := by
  have hprepare : a.prepare config = b.prepare config := by
    funext c
    rw [prepare, prepare, h.requests,
      Registry.resolveComponent_congr (h.referenceTyping_exportPass config)]
  rw [registry_typePass_eq, registry_typePass_eq]
  refine Catalog.ext ?_
  change a.registry.components.items.map _ = b.registry.components.items.map _
  rw [hprepare]
  exact h.map_eq fun c d hauthored hreachable =>
    Component.resolveComponent_decideExport b.requests config hauthored hreachable _

/-- The same components are exported at first, in the same order. -/
lemma exports_typePass : (a.typePass config).exports = (b.typePass config).exports := by
  have hkeys : ∀ e : Assets, (e.typePass config).exports =
      Exports.empty.insertAll (((e.typePass config).registry.components.items.filter
        (·.exported)).map Component.key) := by
    intro e
    have hitems : (e.typePass config).registry.components.items =
        (e.exportPass config).registry.components.items.map
          (e.exportPass config).registry.resolveComponent := rfl
    rw [hitems, List.filter_map, List.map_map]
    rfl
  rw [hkeys, hkeys, h.components_typePass]

/-- **When the walk begins** nothing is left of the old notes. -/
lemma typePass_eq :
    a.typePass config = (b.typePass config).withWarnings a.registry.warnings := by
  have hregistry : (a.typePass config).registry =
      (b.typePass config).registry.withWarnings a.registry.warnings := by
    have hpackages : (a.typePass config).registry.packages =
        (b.typePass config).registry.packages := h.packages
    rw [Registry.withWarnings, ← hpackages, ← h.components_typePass]
    rfl
  rw [ExportPass.withWarnings, ← hregistry, ← h.exports_typePass]
  rfl

/-- The resolutions agree, the warnings apart. -/
lemma resolve_eq : a.resolve config = (b.resolve config).withWarnings a.registry.warnings := by
  rw [← resolve_withWarnings]
  exact resolve_eq_of_typePass (h.typePass_eq config)

end Assets.SameAuthored

namespace Assets

/-- **Notes are recomputed**: where the packages, the requests, what was authored of the components
and their reachable marks are the same, whatever else was noted on them before, a resolution comes
to the same registry, apart from the warnings that it carries along, and to the same exports in the
same order, the same walk and the same dangling references. -/
theorem resolve_recomputed {a b : Assets} (h : a.SameAuthored b) (config : Config) :
    (a.resolve config).registry = (b.resolve config).registry.withWarnings a.registry.warnings ∧
    (a.registry.warnings = b.registry.warnings →
      (a.resolve config).registry = (b.resolve config).registry) ∧
    (a.resolve config).exports = (b.resolve config).exports ∧
    (a.resolve config).walk = (b.resolve config).walk ∧
    (a.resolve config).dangling = (b.resolve config).dangling := by
  have hregistry : (a.resolve config).registry =
      (b.resolve config).registry.withWarnings a.registry.warnings := by
    rw [h.resolve_eq, Resolution.registry_withWarnings]
  refine ⟨hregistry, fun hsame => ?_, ?_, ?_, ?_⟩
  · rw [hregistry, hsame]
    exact Registry.withWarnings_eq_self (b.frame_resolve config).2.1
  · rw [h.resolve_eq, Resolution.exports_withWarnings]
  · rw [h.resolve_eq, Resolution.walk_withWarnings]
  · rw [h.resolve_eq, Resolution.dangling_withWarnings]

/-- Two components that hold each other have got class names and types under another prefix; nothing
of that is left after a resolution. -/
theorem resolve_recomputed_cyclic :
    let fresh := cyclic.declareAll
    let stale : Assets := ⟨(fresh.typePass { classNamePrefix := "Ui" }).registry, fresh.requests⟩
    fresh.SameAuthored stale ∧
      fresh.registry.components.items.map Component.className? = [none, none] ∧
      stale.registry.components.items.map Component.className? =
        [some "UiMainPanel", some "UiRow"] ∧
      (fresh.resolve {}).registry = (stale.resolve {}).registry ∧
      (fresh.resolve {}).exports = (stale.resolve {}).exports ∧
      (fresh.resolve {}).walk = (stale.resolve {}).walk ∧
      (stale.resolve {}).registry.components.items.map Component.className? =
        [some "FUI_MainPanel", some "FUI_Row"] := by
  intro fresh stale
  have hauthored : fresh.SameAuthored stale := fresh.sameAuthored_typePass _
  obtain ⟨-, hregistry, hexports, hwalk, -⟩ := resolve_recomputed hauthored {}
  have hsame := hregistry rfl
  have hfresh : cyclic.declareAll.registry.components.items.map Component.className? =
      [none, none] := by cbv
  have hstale : (cyclic.declareAll.typePass
      { classNamePrefix := "Ui" }).registry.components.items.map Component.className? =
        [some "UiMainPanel", some "UiRow"] := by cbv
  have hclass : (cyclic.declareAll.resolve {}).registry.components.items.map
      Component.className? = [some "FUI_MainPanel", some "FUI_Row"] := by cbv
  rw [hsame] at hclass
  exact ⟨hauthored, hfresh, hstale, hsame, hexports, hwalk, hclass⟩

end Assets

end UiBinding
