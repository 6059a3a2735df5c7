import EntityModel.Catalog.Basic
import EntityModel.Json.Basic

/-!
# Catalogs as JSON

Every field is written, also where it has its default.
-/

namespace EntityModel

/-- An identifier as JSON. -/
def Identifier.toJson (i : Identifier) : Json :=
  .object [("catalog", .string i.catalog), ("schema", .string i.schema), ("name", .string i.name)]

/-- A column as JSON. -/
def Column.toJson (c : Column) : Json :=
  .object
    [("name", .string c.name), ("original_name", .string c.unaliasedName), ("not_null", .bool c.notNull),
     ("is_array", .bool c.isArray), ("array_dims", .int c.arrayDims.toNat),
     ("unsigned", .bool c.unsigned), ("is_sqlc_slice", .bool c.isSlice), ("length", .int c.length.toInt),
     ("comment", .string c.comment),
     ("table", match c.table with | some table => table.toJson | none => .null),
     ("type", c.type.toJson)]

/-- A table as JSON. -/
def Table.toJson (t : Table) : Json :=
  .object
    [("rel", t.rel.toJson), ("columns", .array (t.columns.map Column.toJson)),
     ("comment", .string t.comment)]

/-- An enum type as JSON. -/
def EnumType.toJson (e : EnumType) : Json :=
  .object
    [("name", .string e.name), ("vals", .array (e.vals.map .string)), ("comment", .string e.comment)]

/-- A composite type as JSON. -/
def CompositeType.toJson (c : CompositeType) : Json :=
  .object [("name", .string c.name), ("comment", .string c.comment)]

/-- A schema as JSON. -/
def Schema.toJson (s : Schema) : Json :=
  .object
    [("name", .string s.name), ("comment", .string s.comment),
     ("tables", .array (s.tables.map Table.toJson)), ("enums", .array (s.enums.map EnumType.toJson)),
     ("composite_types", .array (s.compositeTypes.map CompositeType.toJson))]

/-- A catalog as JSON. -/
def Catalog.toJson (c : Catalog) : Json :=
  .object
    [("name", .string c.name), ("comment", .string c.comment),
     ("default_schema", .string c.defaultSchema), ("schemas", .array (c.schemas.map Schema.toJson))]

end EntityModel
