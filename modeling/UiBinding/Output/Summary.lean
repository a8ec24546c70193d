/-
The summary of a resolution.
-/
import UiBinding.Output.Styled
import UiBinding.Resolution.Basic

namespace UiBinding.Resolution

/-- A line of the summary with a heading. -/
def headed (styled : Bool) (heading text : String) : String :=
  "  " ++ Style.strong.apply styled heading ++ " " ++ text

/-- The line for a dangling reference. -/
def danglingLine (d : DanglingReference) : String :=
  "  " ++ d.location ++ "." ++ d.member ++ " -> " ++ d.target.text

/-- The lines that list the dangling references, if there are any. -/
def danglingLines (r : Resolution) (styled : Bool) : List String :=
  if r.dangling.isEmpty then []
  else
    ["", (Style.strongColour .red).apply styled
      ("Unresolved references (" ++ toString r.dangling.length ++ "):")] ++
    r.dangling.map danglingLine

/-- The lines on warnings, if there are any. -/
def warningLines (r : Resolution) (styled : Bool) : List String :=
  let count := r.registry.warnings.length
  if count = 0 then []
  else [headed styled "Warnings:" ((Style.colour .yellow).apply styled (toString count))]

/-- The summary. -/
def summary (r : Resolution) (styled : Bool) : List String :=
  ["Resolved " ++ toString r.registry.packages.size ++ " package(s), " ++
      toString r.registry.components.size ++ " component(s)",
    headed styled "Exported:" (toString r.exports.componentCount ++ " component(s) in " ++
      toString r.exports.packageCount ++ " package(s)"),
    headed styled "Root panels:" (toString r.walk.panels.length),
    headed styled "Sub-panels:" (toString r.walk.subPanels.length)] ++
  r.warningLines styled ++ r.danglingLines styled

end UiBinding.Resolution
