import EntityModel.Catalog.Decode
import EntityModel.Catalog.Encode

/-!
# Requests

What the host asks for: the engine's name, the catalog, and the options of the run and of the whole
project, which are kept as they came.
-/

namespace EntityModel

open Document

/-- A request for the entity models of a catalog. -/
structure Request where
  engineName : String := ""
  catalog : Catalog := {}
  options : Json := .null
  globalOptions : Json := .null
  deriving Repr, Inhabited

namespace Request

/-- The engine's name from the settings record of a request. -/
def engineNameOfNode (n : Node) : Except Fault String := do
  let fields ← n.record ["engine"]
  fields.text "engine"

/-- A request from a document. -/
def ofNode (n : Node) : Except Fault Request := do
  let fields ← n.record ["settings", "catalog", "plugin_options", "global_options"]
  let engineName ← fields.get "settings" "" engineNameOfNode
  let catalog ← fields.get "catalog" {} Catalog.ofNode
  let options ← fields.value "plugin_options"
  let globalOptions ← fields.value "global_options"
  return { engineName, catalog, options, globalOptions }

/-- A request as JSON, with every field written. -/
def toJson (r : Request) : Json :=
  .object
    [("settings", .object [("engine", .string r.engineName)]), ("catalog", r.catalog.toJson),
     ("plugin_options", r.options), ("global_options", r.globalOptions)]

end Request

end EntityModel
