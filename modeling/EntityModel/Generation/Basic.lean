import EntityModel.Entity
import EntityModel.Options.Settle

/-!
# Generations

The answer to a request: the entities of all tables outside the schemas of engine internals, sorted by the
names of their types, and the reports on columns without a known type, in the order of the catalog.
-/

namespace EntityModel

/-- The entity models of a catalog with what the renderer needs beside them. -/
structure Generation where
  package : String
  driver : Driver
  entities : List Entity
  diagnostics : Diagnostics
  defaultValues : List DefaultValue
  deriving DecidableEq, Repr

namespace Catalog

/-- The tables that become entities, qualified, in the order of the catalog. -/
def userTables (c : Catalog) : List Table :=
  c.userSchemas.flatMap fun s => s.tables.map (·.qualify s.name)

end Catalog

namespace Generation

/-- The entities that fixtures are generated for. -/
def renderable (g : Generation) : List Entity := g.entities.filter (·.isRenderable)

/-- The imports of a fixture of an entity, in increasing order of paths. -/
def importsOf (g : Generation) (e : Entity) : List Import :=
  (e.imports (ImportSet.empty g.driver).addDriver.addConnection).toList

/-- Entities sorted by the names of their types; those of one name stay in their order. -/
def sortEntities (entities : List Entity) : List Entity :=
  entities.mergeSort fun a b => decide (a.type.base ≤ b.type.base)

/-- The generation of a catalog under settled options: one table after the other, with the reports
collected on the way. -/
def ofCatalog (o : Options) (c : Catalog) : Generation :=
  let custom := CustomTypes.ofCatalog o c
  let (entities, diagnostics) := (c.userTables.mapM (o.entity custom)).run []
  { package := o.package
    driver := o.driver
    entities := sortEntities entities
    diagnostics
    defaultValues := o.defaultValues }

/-- The generation of a catalog, none if the dimensions of some column overflow. -/
def ofCatalog? (o : Options) (c : Catalog) : Option Generation :=
  let custom := CustomTypes.ofCatalog o c
  if c.userTables.all fun t => t.columns.all fun column => (o.resolve? custom column).isSome then
    some (ofCatalog o c)
  else none

/-- The answer to a request, with dimensions counted modulo the size of a word. Only its options can be refused. -/
def ofRequest (lib : Libraries) (r : Request) : Except Error Generation := do
  let o ← Options.ofRequest lib r
  return ofCatalog o r.catalog

/-- The answer to a request, with additions checked: none if the dimensions of some column overflow. -/
def ofRequest? (lib : Libraries) (r : Request) : Except Error (Option Generation) := do
  let o ← Options.ofRequest lib r
  return ofCatalog? o r.catalog

end Generation

end EntityModel
