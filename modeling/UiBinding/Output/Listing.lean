/-
The list of exported components, grouped by package.
-/
import UiBinding.Output.Styled
import UiBinding.Resolution.Basic

namespace UiBinding

namespace Component

/-- Why a component is exported, where the manifest does not declare it. -/
def origin (c : Component) : String :=
  if c.declaredExported then "" else if c.reachable then " [sub-panel]" else " [requested]"

/-- The line for an exported component. -/
def listingLine (c : Component) (styled : Bool) : String :=
  "    " ++ (Style.colour .green).apply styled (c.className?.getD c.fileName) ++ " " ++
    Style.faint.apply styled c.kind.baseType ++ " " ++ c.url ++
    (Style.colour .cyan).apply styled c.origin

/-- The line for a controller. -/
def controllerLine (styled : Bool) (k : Controller) : String :=
  "      " ++ Style.strong.apply styled "controller" ++ " " ++ k.name ++ " [" ++
    ", ".intercalate k.pages ++ "]"

/-- The line for a member. -/
def memberLine (styled : Bool) (m : Member) : String :=
  "      " ++ m.name ++ ": " ++
    (Style.colour .cyan).apply styled ((m.typing?.bind Member.Typing.typeName?).getD "?")

/-- The lines for what becomes a field. -/
def fieldLines (c : Component) (styled : Bool) : List String :=
  c.exposedControllers.map (controllerLine styled) ++ c.exposedMembers.map (memberLine styled)

end Component

namespace Resolution

/-- The lines for an exported component; one that is not registered has none. -/
def componentLines (r : Resolution) (detailed styled : Bool) (key : Component.Key) :
    List String :=
  match r.registry.component? key with
  | none => []
  | some c => c.listingLine styled :: if detailed then c.fieldLines styled else []

/-- The lines for the exported components of a package. -/
def groupLines (r : Resolution) (detailed styled : Bool) (g : Exports.Group) : List String :=
  ("  " ++ (Style.strongColour .yellow).apply styled (r.registry.packageName g.packageId) ++ " " ++
    Style.faint.apply styled ("(" ++ g.packageId ++ ")")) ::
  g.keys.flatMap (r.componentLines detailed styled) ++ [""]

/-- The list of exported components. -/
def listing (r : Resolution) (detailed styled : Bool) : List String :=
  if r.exports.isEmpty then ["No exported components."]
  else
    ["Exported components (" ++ toString r.exports.componentCount ++ "):", ""] ++
      r.exports.groups.items.flatMap (r.groupLines detailed styled)

end Resolution

end UiBinding
