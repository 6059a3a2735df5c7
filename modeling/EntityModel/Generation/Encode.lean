import EntityModel.Generation.Basic

/-!
# Generations as JSON

The form in which a generation is handed to the renderer.
-/

namespace EntityModel

/-- An import as JSON; the local name is left out where there is none. -/
def Import.toJson (i : Import) : Json :=
  .ofMembers [("path", some (.string i.path)), ("alias", i.localName.map .string)]

/-- A type as JSON; the import is left out where there is none. -/
def TargetType.toJson (t : TargetType) : Json :=
  .ofMembers
    [("base_name", some (.string t.base)), ("namespace", some (.string t.qualifier)),
     ("external_ref", t.origin.map Import.toJson), ("is_pointer", some (.bool t.pointer)),
     ("is_array", some (.bool t.array)), ("array_depth", some (.int t.depth.toNat))]

/-- A field as JSON. Fields carry no tags. -/
def Field.toJson (f : Field) : Json :=
  .object
    [("name", .string f.name), ("db_name", .string f.dbName), ("type", f.type.toJson),
     ("tags", .object []), ("comment", .string f.comment), ("is_primary_key", .bool f.isPrimaryKey)]

/-- An entity as JSON. -/
def Entity.toJson (e : Entity) : Json :=
  .object
    [("table", e.table.toJson), ("table_name", .string e.tableName), ("type", e.type.toJson),
     ("fields", .array (e.fields.map Field.toJson)), ("has_primary_key", .bool e.hasPrimaryKey),
     ("comment", .string e.comment)]

/-- A report as JSON. -/
def Diagnostic.toJson (d : Diagnostic) : Json :=
  .object
    [("kind", .string d.kind.name), ("table", .string d.table), ("column", .string d.column),
     ("sql_type", .string d.sqlType), ("message", .string d.message)]

/-- A default value as JSON. -/
def DefaultValue.toJson (v : DefaultValue) : Json :=
  .object [("type", .string v.type), ("value", .string v.value), ("import", .string v.importPath)]

/-- A generation as JSON. -/
def Generation.toJson (g : Generation) : Json :=
  .object
    [("package", .string g.package), ("driver", .string g.driver.path),
     ("structs", .array (g.entities.map Entity.toJson)),
     ("diagnostics", .array (g.diagnostics.map Diagnostic.toJson)),
     ("default_type_values", .array (g.defaultValues.map DefaultValue.toJson))]

end EntityModel
