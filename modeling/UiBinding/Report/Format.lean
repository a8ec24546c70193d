/-
The format of reports: which fields a report has, in which order, and under which names.
-/
import UiBinding.Report.Basic

namespace UiBinding.Report

/-- The fields of a member. -/
def Member.toJson (m : Report.Member) : Json :=
  .record ([("name", .text m.name), ("kind", .text m.kind.name)] ++
    Json.optionalField "type_name" m.typeName? ++ Json.optionalField "base_type" m.baseType? ++
    Json.optionalField "target" (m.target?.map Component.Key.text) ++
    [("dangling", .truth m.dangling)])

/-- The fields of a controller. -/
def Controller.toJson (c : Report.Controller) : Json :=
  .record [("name", .text c.name), ("pages", .texts c.pages)]

/-- The fields of a component. -/
def Component.toJson (c : Report.Component) : Json :=
  .record ([("key", .text c.key.text), ("id", .text c.key.componentId), ("name", .text c.fileName),
      ("url", .text c.url), ("kind", .text c.kind.name), ("base_type", .text c.kind.baseType),
      ("exported", .truth c.exported), ("reachable", .truth c.reachable)] ++
    Json.optionalField "class_name" c.className? ++
    [("controllers", .list (c.controllers.map Controller.toJson)),
      ("variables", .list (c.members.map Member.toJson))])

/-- The fields of a package. -/
def Package.toJson (p : Report.Package) : Json :=
  .record [("id", .text p.id), ("name", .text p.name), ("path", .text p.path.text),
    ("components", .list (p.components.map Component.toJson))]

/-- The exported components: a field for each package, in it a field for each component. -/
def exportsToJson (e : Exports) : Json :=
  .record (e.groups.items.map fun g =>
    (g.packageId, .record (g.keys.map fun key => (key.componentId, .text key.text))))

/-- The fields of a root panel. -/
def panelToJson (p : RootPanel) : Json :=
  .record [("package_id", .text p.packageId), ("package_name", .text p.packageName),
    ("component", .text p.component.text)]

/-- The fields of a sub-panel. -/
def subPanelToJson (s : SubPanel) : Json :=
  .record [("component", .text s.component.text), ("package_id", .text s.component.packageId),
    ("package_name", .text s.packageName), ("parent", .text s.parent.text),
    ("variable", .text s.member)]

/-- The fields of a dangling reference. -/
def danglingToJson (d : DanglingReference) : Json :=
  .record [("component", .text d.component.text), ("location", .text d.location),
    ("variable", .text d.member), ("target", .text d.target.text)]

/-- The fields of a report. -/
def toJson (r : Report) : Json :=
  .record [("namespace", .text r.classNamespace), ("class_name_prefix", .text r.classNamePrefix),
    ("packages", .list (r.packages.map Package.toJson)), ("exported", exportsToJson r.exports),
    ("panels", .list (r.panels.map panelToJson)),
    ("sub_panels", .list (r.subPanels.map subPanelToJson)),
    ("failures", .list (r.dangling.map danglingToJson)), ("warnings", .texts r.warnings)]

/-- The text of a report. -/
def render (r : Report) : String := r.toJson.render

end UiBinding.Report
