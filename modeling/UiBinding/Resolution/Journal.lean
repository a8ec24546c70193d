/-
The journal of a resolution: what the passes tell about their progress.
-/
import UiBinding.Log
import UiBinding.Resolution.Basic

namespace UiBinding.Assets

/-- The warnings about requested addresses that no component has. -/
def requestWarnings (a : Assets) : Log :=
  (a.registry.unknownRequests a.requests).map fun url =>
    .warning ("Export requested for unknown component " ++ url)

/-- The remark on the first export pass. -/
def exportRemark (a : Assets) (config : Config) : LogLine :=
  let exports := (a.exportPass config).exports
  .remark (toString exports.componentCount ++ " exported component(s) in " ++
    toString exports.packageCount ++ " package(s)")

/-- The remarks on root panels whose files could not be read. -/
def rootPanelRemarks (r : Registry) : Log :=
  r.packages.items.filterMap fun p =>
    (p.rootPanel?.filter fun entry => (r.component? ⟨p.id, entry.id⟩).isNone).map fun entry =>
      .remark ("root panel " ++ entry.fileName ++ " of " ++ p.name ++ " was not parsed")

/-- The remarks on the sub-panels of a walk. -/
def subPanelRemarks (w : Walk) : Log :=
  w.subPanels.map fun s =>
    .remark ("sub-panel " ++ s.component.text ++ " via " ++ s.parent.text ++ "." ++ s.member)

/-- The remark on sub-panels that were not exported before. -/
def reachRemarks (added : Nat) : Log :=
  if added = 0 then [] else [.remark (toString added ++ " sub-panel(s) joined the export set")]

/-- What all passes tell, in order. -/
def journal (a : Assets) (config : Config) : Log :=
  a.requestWarnings ++ [a.exportRemark config] ++ rootPanelRemarks a.registry ++
    subPanelRemarks (a.walk config) ++ reachRemarks (a.reachPass config).added ++
    (a.resolve config).dangling.map fun d => .warning d.diagnostic.message

end UiBinding.Assets
