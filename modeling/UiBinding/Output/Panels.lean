/-
The list of root panels, each with the sub-panels below it.
-/
import UiBinding.Output.Styled
import UiBinding.Resolution.Basic

namespace UiBinding

/-- The file name of a component; one that is not registered is called by its key. -/
def Registry.fileNameOf (r : Registry) (key : Component.Key) : String :=
  ((r.component? key).map Component.fileName).getD key.text

namespace Resolution

/-- The line for a sub-panel. -/
def subPanelLine (r : Resolution) (styled : Bool) (s : SubPanel) : String :=
  "  " ++ r.registry.fileNameOf s.parent ++ "." ++ s.member ++ " -> " ++
    (Style.colour .green).apply styled (r.registry.fileNameOf s.component) ++ " " ++
    Style.faint.apply styled ("(" ++ s.packageName ++ ")")

/-- The lines for a root panel and the sub-panels that are listed below it. -/
def panelBlock (r : Resolution) (styled : Bool) (p : RootPanel) (below : List SubPanel) :
    List String :=
  ((Style.strongColour .yellow).apply styled p.packageName ++ " " ++
    Style.faint.apply styled
      (r.registry.fileNameOf p.component ++ " (" ++ p.component.text ++ ")")) ::
  (if below.isEmpty then ["  " ++ Style.faint.apply styled "no sub-panels"]
    else below.map (r.subPanelLine styled)) ++ [""]

/-- The lines for a root panel and what hangs below it. -/
def panelLines (r : Resolution) (styled : Bool) (p : RootPanel) : List String :=
  r.panelBlock styled p (r.walk.descendants p.component)

/-- Whether a root panel belongs to the package that is asked for, by name or identifier. -/
def isWanted (package : Option String) (p : RootPanel) : Bool :=
  match package with
  | none => true
  | some wanted => p.packageName = wanted || p.packageId = wanted

/-- The root panels of all packages, or of the one that is asked for. -/
def panelListing (r : Resolution) (package : Option String) (styled : Bool) : List String :=
  let panels := r.walk.panels.filter (isWanted package)
  if panels.isEmpty then
    match package with
    | some wanted => ["No root panel for package " ++ wanted ++ "."]
    | none => ["No root panels found."]
  else panels.flatMap (r.panelLines styled)

end Resolution

end UiBinding
