/-!
# Diagnostics

Reports of columns whose type is not known. They take the place of an error: the column gets the untyped
placeholder, and one report says why.
-/

namespace EntityModel

/-- Why a column has no known type. -/
inductive TypeGap where
  /-- The engine has no such type, and the catalog declares none. -/
  | unknownType
  /-- The engine has the type, but the driver cannot scan it. -/
  | unsupportedForDriver
  deriving DecidableEq, Repr, Inhabited

namespace TypeGap

/-- The name of a gap in machine-readable output. -/
def name : TypeGap → String
  | unknownType => "unknown_type"
  | unsupportedForDriver => "unsupported_for_driver"

/-- The gap in words. -/
def text : TypeGap → String
  | unknownType => "unknown type"
  | unsupportedForDriver => "unsupported for driver"

end TypeGap

/-- A report that a column has no known type. -/
structure Diagnostic where
  kind : TypeGap
  table : String
  column : String
  sqlType : String
  message : String
  deriving DecidableEq, Repr, Inhabited

/-- Reports in the order in which they were made. -/
abbrev Diagnostics := List Diagnostic

namespace Diagnostics

/-- Add a report at the end. -/
def record (ds : Diagnostics) (d : Diagnostic) : Diagnostics := ds ++ [d]

/-- The reports about columns of that name. -/
def forColumn (ds : Diagnostics) (column : String) : Diagnostics := ds.filter (·.column = column)

end Diagnostics

end EntityModel
