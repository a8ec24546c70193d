/-
The export pass: which components get a generated class, and which members become fields.

A component is exported if its manifest declares it, if its address was requested, or if a root
panel leads to it.  All notes on a component are written anew.

* `Registry.markExports` goes over the whole registry;
* `ExportPass.reach` exports one component that a root panel leads to.
-/
import UiBinding.Registry
import UiBinding.Resolution.Exports
import UiBinding.Resolution.Exposure

namespace UiBinding

/-- Decides whether a component is exported and which of its parts become fields. -/
def Component.decideExport (requests : ExportRequests) (config : Config) (c : Component) :
    Component :=
  let exported := c.declaredExported || requests.contains c.url || c.reachable
  { c.expose config.ignoreDefaultNames with
    exported := exported
    className? := if exported then some (config.className c.stem) else none }

/-- Deciding keeps the key. -/
theorem Component.key_decideExport (requests : ExportRequests) (config : Config) (c : Component) :
    (c.decideExport requests config).key = c.key := rfl

/-- Notes that a root panel leads to a component. -/
def Component.markReachable (c : Component) : Component := { c with reachable := true }

/-- Exports a component. -/
def Component.markExported (config : Config) (c : Component) : Component :=
  { c with exported := true, className? := some (config.className c.stem) }

/-- A registry whose components are marked, with the exported ones grouped. -/
structure ExportPass where
  registry : Registry
  exports : Exports
  /-- How many components were exported because a root panel leads to them. -/
  added : Nat := 0

/-- Decides for every component of a registry. -/
def Registry.markExports (r : Registry) (requests : ExportRequests) (config : Config) :
    ExportPass :=
  let marked := r.mapComponents (Component.decideExport requests config)
    (Component.key_decideExport requests config)
  ⟨marked, Exports.empty.insertAll ((marked.components.items.filter (·.exported)).map
    Component.key), 0⟩

/-- The requested addresses that no component has. -/
def Registry.unknownRequests (r : Registry) (requests : ExportRequests) : List String :=
  requests.items.filter fun url => !(r.components.items.any fun c => c.url == url)

namespace ExportPass

/-- Notes that a root panel leads to a component and exports it, if it is not exported yet. -/
def reach (config : Config) (p : ExportPass) (key : Component.Key) : ExportPass :=
  if (p.registry.component? key).isNone then p
  else if p.exports.contains key then
    { p with registry := p.registry.modifyComponent key Component.markReachable fun _ => rfl }
  else
    { registry := p.registry.modifyComponent key
        (fun c => c.markReachable.markExported config) fun _ => rfl
      exports := p.exports.insert key
      added := p.added + 1 }

/-- Exports the components that root panels lead to, one after the other. -/
def reachAll (config : Config) (p : ExportPass) (keys : List Component.Key) : ExportPass :=
  keys.foldl (reach config) p

end ExportPass

end UiBinding
