import EntityModel.Dialect.Mapping
import EntityModel.Text.Blank
import EntityModel.Text.LetterCase

/-!
# MySQL types

Nullable values are wrapped in `sql.Null…` types, never in pointers. Integers follow the column's sign, and
a `tinyint` of width one is a Boolean.
-/

namespace EntityModel.MySql

open Text

/-- A type name in lower case, without blanks around it. -/
def normalizeChars (raw : List Char) : List Char := lower (trim raw)

/-- The spelling under which a type name is looked up. -/
def normalize (raw : String) : String := String.ofList (normalizeChars raw.toList)

/-- How the types of a group are scanned. -/
inductive Family where
  /-- A type and the `sql.Null…` wrapper of its nullable values. -/
  | plain (base : TargetType) (wrapper : String)
  | integer (signed unsigned wrapper : String)
  /-- The narrowest integer, which is a Boolean at width one. -/
  | tiny
  /-- A type whose nullable values look the same. -/
  | uniform (type : TargetType)
  deriving DecidableEq, Repr

/-- The type names of each family. -/
def families : List (List String × Family) :=
  [(["varchar", "text", "char", "tinytext", "mediumtext", "longtext"],
    .plain (.builtin "string") "NullString"),
   (["tinyint"], .tiny),
   (["year"], .plain (.builtin "int16") "NullInt16"),
   (["smallint"], .integer "int16" "uint16" "NullInt16"),
   (["int", "integer", "mediumint"], .integer "int32" "uint32" "NullInt32"),
   (["bigint"], .integer "int64" "uint64" "NullInt64"),
   (["blob", "binary", "varbinary", "tinyblob", "mediumblob", "longblob"], .plain .bytes "NullString"),
   (["double", "double precision", "real", "float"], .plain (.builtin "float64") "NullFloat64"),
   (["decimal", "dec", "fixed"], .plain (.builtin "string") "NullString"),
   (["enum"], .uniform (.builtin "string")),
   (["date", "timestamp", "datetime", "time"], .plain .time "NullTime"),
   (["boolean", "bool"], .plain (.builtin "bool") "NullBool"),
   (["json"], .uniform (.qualified "json" "RawMessage"))]

/-- The family of a normalized type name. -/
def family? (name : String) : Option Family := (families.find? fun row => name ∈ row.1).map (·.2)

namespace Family

/-- The type of a column of a family. -/
def type (notNull isUnsigned : Bool) (length : Int32) : Family → TargetType
  | plain base wrapper => if notNull then base else .sql wrapper
  | integer signed unsigned wrapper =>
    if notNull then .builtin (if isUnsigned then unsigned else signed) else .sql wrapper
  | tiny =>
    if length = 1 then (if notNull then .builtin "bool" else .sql "NullBool")
    else if notNull then .builtin (if isUnsigned then "uint8" else "int8")
    else .sql "NullInt16"
  | uniform type => type

end Family

/-- The table's answer for a normalized type name. -/
def map (name : String) (notNull isUnsigned : Bool) (length : Int32) : Mapping :=
  match family? name with
  | some family => .resolved (family.type notNull isUnsigned length)
  | none => .unknown

end EntityModel.MySql
