/-
Resolution: all passes over a registry in order.

The export pass comes first, because the type of a reference is the class generated for its target.
The walk follows the types.  What it reaches is exported as well; if that adds an exported
component, the types are determined once more.
-/
import UiBinding.Resolution.Export
import UiBinding.Resolution.Typing
import UiBinding.Resolution.Walk

namespace UiBinding

/-- What was read of the packages. -/
structure Assets where
  registry : Registry
  requests : ExportRequests

namespace Assets

/-- Nothing was read. -/
def empty : Assets := ⟨.empty, .empty⟩

end Assets

/-- A registry with all notes made, and what was found out on the way. -/
structure Resolution where
  registry : Registry
  exports : Exports
  walk : Walk
  dangling : List DanglingReference

namespace Resolution

/-- The verdict on a resolution: no reference may dangle. -/
def verdict (r : Resolution) : Except Diagnostic Unit :=
  if r.dangling.isEmpty then .ok () else .error (.unresolvedReferences r.dangling.length)

end Resolution

namespace Assets

/-- The registry after the first export pass. -/
def exportPass (a : Assets) (config : Config) : ExportPass :=
  a.registry.markExports a.requests config

/-- The registry after the first type pass, with the exports found so far. -/
def typePass (a : Assets) (config : Config) : ExportPass :=
  let pass := a.exportPass config
  { pass with registry := pass.registry.resolveTypes }

/-- The walk over the typed registry. -/
def walk (a : Assets) (config : Config) : Walk := (a.typePass config).registry.walk

/-- The registry after the sub-panels of the walk have been exported. -/
def reachPass (a : Assets) (config : Config) : ExportPass :=
  (a.typePass config).reachAll config (a.walk config).keys

/-- Makes all passes. -/
def resolve (a : Assets) (config : Config) : Resolution :=
  let typed := (a.typePass config).registry
  let reached := a.reachPass config
  if reached.added = 0 then
    ⟨reached.registry, reached.exports, a.walk config, typed.danglingReferences⟩
  else
    let retyped := reached.registry.resolveTypes
    ⟨retyped, reached.exports, a.walk config, retyped.danglingReferences⟩

end Assets

end UiBinding
