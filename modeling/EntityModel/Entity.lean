import EntityModel.Import.Collection
import EntityModel.Naming.Parameter
import EntityModel.Naming.Singular
import EntityModel.Resolution

/-!
# Entities

The model of one table: its generated type and a field for each column, in the order of the columns. The
reports on columns without a known type are collected across all tables of a run.
-/

namespace EntityModel

/-- A field of an entity. -/
structure Field where
  /-- The exported identifier. -/
  name : String
  type : TargetType
  isPrimaryKey : Bool
  /-- The column that the field was made from. -/
  column : Column
  deriving DecidableEq, Repr

namespace Field

/-- The name in the database. -/
def dbName (f : Field) : String := f.column.name

/-- The column's comment. -/
def comment (f : Field) : String := f.column.comment

/-- The name of a local variable for the field's value. -/
def parameter (f : Field) : String := Naming.parameter f.name

end Field

/-- The model of a table. -/
structure Entity where
  table : Identifier
  /-- The table's name within all schemas. -/
  tableName : String
  type : TargetType
  fields : List Field
  comment : String
  deriving DecidableEq, Repr

namespace Entity

/-- The field of the primary key, the first one if several columns bear its name. -/
def primaryKey? (e : Entity) : Option Field := e.fields.find? (·.isPrimaryKey)

/-- Whether some field is the primary key. -/
def hasPrimaryKey (e : Entity) : Bool := e.fields.any (·.isPrimaryKey)

/-- Fixtures are generated only for entities with a primary key. -/
def isRenderable (e : Entity) : Bool := e.hasPrimaryKey

/-- The table's name in SQL. -/
def fullTableName (e : Entity) : String := e.table.qualifiedName

/-- The imports of a fixture of the entity: those given and those of its own type and its key's type. -/
def imports (e : Entity) (base : ImportSet) : ImportSet :=
  match e.primaryKey? with
  | some key => (base.addType e.type).addType key.type
  | none => base.addType e.type

end Entity

/-- A table under the name of its schema, with columns that know it. -/
def Table.qualify (t : Table) (schema : String) : Table :=
  let rel := { t.rel with schema := t.rel.schemaOr schema }
  { t with rel, columns := t.columns.map fun c => { c with table := some (c.table.getD rel) } }

namespace Options

/-- The name that an entity's type is made from: the table's, in the singular unless it is kept exact. -/
def entityName (o : Options) (tableName : String) : String :=
  if o.exactTableNames then tableName else Naming.singular tableName o.uninflected

/-- The field of a column. A report on its type goes to those collected so far. -/
def field (o : Options) (custom : CustomTypes) (key : String) (column : Column) :
    StateM Diagnostics Field := do
  let type ← modifyGet fun ds => o.resolveOnto custom ds column
  return { name := o.identifier column.name, type, isPrimaryKey := column.name == key, column }

/-- The entity of a qualified table. The reports on its columns go to those collected so far, in the
order of the columns. -/
def entity (o : Options) (custom : CustomTypes) (t : Table) : StateM Diagnostics Entity := do
  let tableName := o.flatName t.rel.schema t.rel.name
  let fields ← t.columns.mapM (o.field custom (o.primaryKeyOf t.rel))
  return {
    table := t.rel
    tableName
    type := modelType o.modelImport (o.identifier (o.entityName tableName))
    fields
    comment := t.comment }

end Options

end EntityModel
