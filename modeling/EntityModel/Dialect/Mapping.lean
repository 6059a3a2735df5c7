import EntityModel.TargetType.Basic

/-!
# Results of the type tables
-/

namespace EntityModel

/-- What an engine's table says about a column type. -/
inductive Mapping where
  | resolved (type : TargetType)
  /-- The engine has the type, but the driver cannot scan it. -/
  | unsupported
  | unknown
  deriving DecidableEq, Repr, Inhabited

/-- The nullable wrapper of that name from the standard library. -/
def TargetType.sql (name : String) : TargetType := .qualified "sql" name

/-- The standard library's time. -/
def TargetType.time : TargetType := .qualified "time" "Time"

end EntityModel
