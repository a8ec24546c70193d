/-
Reports: what a resolution says, for the tools that generate code from it.

Only what becomes a field is reported.  Packages come in the order of registration, their components
in the order of the manifest.
-/
import UiBinding.Report.Json
import UiBinding.Resolution.Basic

namespace UiBinding

/-- A member as it is reported. -/
structure Report.Member where
  name : String
  kind : DisplayKind
  typeName? : Option String
  baseType? : Option String
  target? : Option Component.Key
  dangling : Bool
  deriving DecidableEq, Repr

/-- A controller as it is reported. -/
structure Report.Controller where
  name : String
  pages : List String
  deriving DecidableEq, Repr

/-- A component as it is reported. -/
structure Report.Component where
  key : UiBinding.Component.Key
  fileName : String
  url : String
  kind : UiBinding.Component.Kind
  exported : Bool
  reachable : Bool
  className? : Option String
  controllers : List Report.Controller
  members : List Report.Member
  deriving DecidableEq, Repr

/-- A package as it is reported. -/
structure Report.Package where
  id : String
  name : String
  path : Path
  components : List Report.Component
  deriving DecidableEq, Repr

/-- The report on a resolution. -/
structure Report where
  classNamespace : String
  classNamePrefix : String
  packages : List Report.Package
  exports : Exports
  panels : List RootPanel
  subPanels : List SubPanel
  dangling : List DanglingReference
  /-- The texts of the warnings. -/
  warnings : List String

namespace Report

/-- Reports a member. -/
def Member.of (m : UiBinding.Member) : Report.Member where
  name := m.name
  kind := m.kind
  typeName? := m.typing?.bind Member.Typing.typeName?
  baseType? := m.typing?.bind Member.Typing.baseType?
  target? := m.typing?.bind Member.Typing.target?
  dangling := m.typing?.any fun typing => typing.typeName?.isNone

/-- Reports a controller. -/
def Controller.of (c : UiBinding.Controller) : Report.Controller := ⟨c.name, c.pages⟩

/-- Reports a component. -/
def Component.of (c : UiBinding.Component) : Report.Component where
  key := c.key
  fileName := c.fileName
  url := c.url
  kind := c.kind
  exported := c.exported
  reachable := c.reachable
  className? := c.className?
  controllers := c.exposedControllers.map Controller.of
  members := c.exposedMembers.map Member.of

/-- Reports a package of a registry.  An entry whose key is not registered is left out. -/
def Package.of (r : Registry) (p : UiBinding.Package) : Report.Package where
  id := p.id
  name := p.name
  path := p.path
  components := (p.entries.items.filterMap fun entry => r.component? ⟨p.id, entry.id⟩).map
    Component.of

/-- Reports a resolution. -/
def of (resolution : Resolution) (config : Config) : Report where
  classNamespace := config.classNamespace
  classNamePrefix := config.classNamePrefix
  packages := resolution.registry.packages.items.map (Package.of resolution.registry)
  exports := resolution.exports
  panels := resolution.walk.panels
  subPanels := resolution.walk.subPanels
  dangling := resolution.dangling
  warnings := resolution.registry.warnings.map Diagnostic.message

end Report

end UiBinding
