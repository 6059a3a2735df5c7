import EntityModel.Catalog.Basic
import EntityModel.Error
import EntityModel.Text.Segment

/-!
# Primary key declarations

Which column of a table is its primary key, declared for a table of one schema or of any.
-/

namespace EntityModel

open Text

/-- A column declared as primary key. Without a schema it is meant for the table in every schema. -/
structure PrimaryKey where
  schema : Option String
  table : String
  column : String
  deriving DecidableEq, Repr

namespace PrimaryKey

/-- The column that is the primary key where nothing is declared. -/
def defaultColumn : String := "id"

/-- A declaration from its dotted form: table and column, with a schema in front if wanted. -/
def ofEntry (entry : String) : Except Error PrimaryKey :=
  let parts := splitOn '.' entry.toList
  if [] ∈ parts then .error (.config (.primaryKeyEmptyPart entry))
  else
    match parts.map String.ofList with
    | [table, column] => .ok ⟨none, table, column⟩
    | [schema, table, column] => .ok ⟨some schema, table, column⟩
    | _ => .error (.config (.primaryKeyParts entry))

/-- Whether a declaration is meant for a table; an unqualified table lies in the default schema. -/
def isFor (key : PrimaryKey) (table : Identifier) (defaultSchema : String) : Bool :=
  key.table == table.name &&
    match key.schema with
    | none => true
    | some schema => schema == table.schemaOr defaultSchema

end PrimaryKey

end EntityModel
