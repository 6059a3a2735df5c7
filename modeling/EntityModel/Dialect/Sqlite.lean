import EntityModel.Dialect.Mapping
import EntityModel.Text.Blank
import EntityModel.Text.LetterCase

/-!
# SQLite types

Type names are free text in SQLite, so blanks inside them do not count, and the character and decimal
families are recognised by how the name starts.
-/

namespace EntityModel.Sqlite

open Text

/-- A type name in lower case, letter by letter, without any blanks. -/
def normalizeChars (raw : List Char) : List Char :=
  (raw.filter fun c => !isBlank c).flatMap lowerChar

/-- The spelling under which a type name is looked up. -/
def normalize (raw : String) : String := String.ofList (normalizeChars raw.toList)

/-- A type and the `sql.Null…` wrapper of its nullable values; `bytes` have none. -/
inductive Family where
  | plain (base : TargetType) (wrapper : String)
  | bytes
  deriving DecidableEq, Repr

/-- The type names of the families that are recognised by the whole name. -/
def families : List (List String × Family) :=
  [(["int", "integer", "tinyint", "smallint", "mediumint", "bigint", "unsignedbigint", "int2", "int8"],
    .plain (.builtin "int64") "NullInt64"),
   (["blob"], .bytes),
   (["real", "double", "doubleprecision", "float"], .plain (.builtin "float64") "NullFloat64"),
   (["boolean", "bool"], .plain (.builtin "bool") "NullBool"),
   (["date", "datetime", "timestamp"], .plain .time "NullTime")]

/-- What the name of a character type may start with. -/
def textStarts : List String :=
  ["character", "varchar", "varyingcharacter", "nchar", "nativecharacter", "nvarchar"]

/-- Whether a normalized name starts as given. -/
def startsWith (start name : String) : Bool := start.toList.isPrefixOf name.toList

/-- The family of a normalized type name. -/
def family? (name : String) : Option Family :=
  match families.find? fun row => name ∈ row.1 with
  | some row => some row.2
  | none =>
    if name = "text" ∨ name = "clob" ∨ (textStarts.any fun start => startsWith start name) then
      some (.plain (.builtin "string") "NullString")
    else if name = "numeric" ∨ startsWith "decimal" name then
      some (.plain (.builtin "float64") "NullFloat64")
    else none

namespace Family

/-- The type of a column of a family. -/
def type (pointers notNull : Bool) : Family → TargetType
  | plain base wrapper => if notNull then base else if pointers then base.toPointer else .sql wrapper
  | bytes => .bytes

end Family

/-- The table's answer for a normalized type name. -/
def map (pointers : Bool) (name : String) (notNull : Bool) : Mapping :=
  match family? name with
  | some family => .resolved (family.type pointers notNull)
  | none => .unknown

end EntityModel.Sqlite
