import EntityModel.Catalog.Basic
import EntityModel.Dialect.MySql
import EntityModel.Dialect.Postgres
import EntityModel.Dialect.Sqlite

/-!
# The type table of an engine

One table per engine, set up once for all columns: `lookup` normalizes a column's type name the way its
engine does and looks it up.
-/

namespace EntityModel

/-- The spelling under which an engine looks a type name up. -/
def Engine.normalizeTypeName : Engine → String → String
  | .postgresql => Postgres.normalize
  | .mysql => MySql.normalize
  | .sqlite => Sqlite.normalize

/-- The type table of an engine with what it depends on. -/
inductive TypeTable where
  | postgres (policy : Postgres.Policy)
  | mysql
  | sqlite (pointers : Bool)
  deriving DecidableEq, Repr

namespace TypeTable

/-- The table of an engine under a driver. -/
def of (engine : Engine) (driver : Driver) (emitPointers : Bool) : TypeTable :=
  match engine with
  | .postgresql => postgres (.of driver emitPointers)
  | .mysql => mysql
  | .sqlite => sqlite emitPointers

/-- The engine of a table. -/
def engine : TypeTable → Engine
  | postgres _ => .postgresql
  | mysql => .mysql
  | sqlite _ => .sqlite

/-- The driver that a table's types belong to. -/
def driver : TypeTable → Driver
  | postgres policy => policy.driver
  | mysql => .goMysql
  | sqlite _ => .libPq

/-- The table's answer for a column. -/
def lookup (table : TypeTable) (column : Column) : Mapping :=
  let name := table.engine.normalizeTypeName column.dataType
  match table with
  | postgres policy => policy.map name column.effectiveNotNull
  | mysql => MySql.map name column.effectiveNotNull column.unsigned column.length
  | sqlite pointers => Sqlite.map pointers name column.effectiveNotNull

theorem engine_of (engine : Engine) (driver : Driver) (emitPointers : Bool) :
    (of engine driver emitPointers).engine = engine := by
  cases engine <;> rfl

end TypeTable

end EntityModel
