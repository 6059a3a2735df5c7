/-!
# Database catalogs

The schemas of a database with their tables, enums and composite types, as the host reports them.
-/

namespace EntityModel

/-- An object name, qualified as far as the host says. -/
structure Identifier where
  catalog : String := ""
  schema : String := ""
  name : String := ""
  deriving DecidableEq, Repr, Inhabited

namespace Identifier

/-- The name behind its schema and a dot, or alone where the schema is not given. -/
def qualifiedName (i : Identifier) : String :=
  if i.schema = "" then i.name else i.schema ++ "." ++ i.name

/-- The schema that the identifier lies in when unqualified objects lie in `default`. -/
def schemaOr (i : Identifier) (default : String) : String :=
  if i.schema = "" then default else i.schema

end Identifier

/-- A column of a table or a parameter of a query. -/
structure Column where
  name : String := ""
  /-- The name before any aliasing, empty if there was none. -/
  unaliasedName : String := ""
  notNull : Bool := false
  isArray : Bool := false
  arrayDims : UInt32 := 0
  unsigned : Bool := false
  /-- A query parameter that takes a list of values. -/
  isSlice : Bool := false
  /-- The declared display width. -/
  length : Int32 := 0
  comment : String := ""
  table : Option Identifier := none
  type : Identifier := {}
  deriving DecidableEq, Repr, Inhabited

namespace Column

/-- The type's name as the host reports it. -/
def dataType (c : Column) : String := c.type.qualifiedName

/-- The name that override patterns are compared with. -/
def matchName (c : Column) : String := if c.unaliasedName = "" then c.name else c.unaliasedName

/-- Whether values are typed as never null; an array as a whole is taken to be there. -/
def effectiveNotNull (c : Column) : Bool := c.notNull || c.isArray

/-- The owning table's name in diagnostics, empty without a table. -/
def tableName (c : Column) : String :=
  match c.table with
  | some table => table.qualifiedName
  | none => ""

end Column

/-- A table with its columns in order. -/
structure Table where
  rel : Identifier := {}
  columns : List Column := []
  comment : String := ""
  deriving DecidableEq, Repr, Inhabited

/-- An enum type with its values. -/
structure EnumType where
  name : String := ""
  vals : List String := []
  comment : String := ""
  deriving DecidableEq, Repr, Inhabited

/-- A composite type. -/
structure CompositeType where
  name : String := ""
  comment : String := ""
  deriving DecidableEq, Repr, Inhabited

/-- A schema with what it declares. -/
structure Schema where
  name : String := ""
  comment : String := ""
  tables : List Table := []
  enums : List EnumType := []
  compositeTypes : List CompositeType := []
  deriving DecidableEq, Repr, Inhabited

namespace Schema

/-- The schemas of engine internals. -/
def internalNames : List String := ["pg_catalog", "information_schema"]

/-- Whether a name is that of a schema of engine internals. -/
def isInternalName (name : String) : Bool := name ∈ internalNames

/-- Whether a schema holds engine internals, which never become entities. -/
def isInternal (s : Schema) : Bool := isInternalName s.name

end Schema

/-- A database. -/
structure Catalog where
  name : String := ""
  comment : String := ""
  defaultSchema : String := ""
  schemas : List Schema := []
  deriving DecidableEq, Repr, Inhabited

namespace Catalog

/-- The schemas that entities and custom types come from. -/
def userSchemas (c : Catalog) : List Schema := c.schemas.filter fun s => !s.isInternal

end Catalog

end EntityModel
