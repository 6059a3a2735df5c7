/-!
# Database engines

The three database families whose catalogs can be read.
-/

namespace EntityModel

/-- A database family. -/
inductive Engine where
  | postgresql
  | mysql
  | sqlite
  deriving DecidableEq, Repr, Inhabited

namespace Engine

/-- The name used in requests and messages. -/
def name : Engine → String
  | postgresql => "postgresql"
  | mysql => "mysql"
  | sqlite => "sqlite"

/-- The engine of that exact name. -/
def ofName? (s : String) : Option Engine :=
  [postgresql, mysql, sqlite].find? (·.name = s)

/-- The schema of unqualified objects when neither the options nor the catalog name one. -/
def defaultSchema : Engine → String
  | postgresql => "public"
  | mysql => ""
  | sqlite => ""

theorem ofName?_name (e : Engine) : ofName? e.name = some e := by
  cases e <;> decide

theorem ofName?_eq_some_iff {s : String} {e : Engine} : ofName? s = some e ↔ s = e.name := by
  constructor
  · intro h
    simpa [eq_comm] using List.find?_some h
  · rintro rfl
    exact ofName?_name e

end Engine

end EntityModel
