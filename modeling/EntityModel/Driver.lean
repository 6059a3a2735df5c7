import EntityModel.Engine

/-!
# Database drivers

The `sql_package` option names a client package; with the engine it decides the driver, and the driver
decides how nulls and structured values are typed. Only PostgreSQL has drivers other than the standard
one (`Driver.resolve?_eq_none_iff`).
-/

namespace EntityModel

/-- The client packages that the `sql_package` option may name. -/
inductive ClientPackage where
  | standard
  | pgxV4
  | pgxV5
  deriving DecidableEq, Repr, Inhabited

namespace ClientPackage

/-- The name used in options and messages. -/
def name : ClientPackage → String
  | standard => "database/sql"
  | pgxV4 => "pgx/v4"
  | pgxV5 => "pgx/v5"

/-- The package of that exact name; no name at all means the standard package. -/
def ofName? (s : String) : Option ClientPackage :=
  if s = "" then some standard else [standard, pgxV4, pgxV5].find? (·.name = s)

end ClientPackage

/-- The driver library behind the connection. -/
inductive Driver where
  | libPq
  | pgxV4
  | pgxV5
  | goMysql
  deriving DecidableEq, Repr, Inhabited

namespace Driver

/-- The driver's module path. -/
def path : Driver → String
  | libPq => "github.com/lib/pq"
  | pgxV4 => "github.com/jackc/pgx/v4"
  | pgxV5 => "github.com/jackc/pgx/v5"
  | goMysql => "github.com/go-sql-driver/mysql"

/-- The package that owns the connection type. -/
def importPath : Driver → String
  | libPq => "database/sql"
  | driver => driver.path

/-- The package that owns the driver's connection errors, for the drivers that have one. -/
def connectionPath? : Driver → Option String
  | pgxV4 => some "github.com/jackc/pgconn"
  | pgxV5 => some "github.com/jackc/pgx/v5/pgconn"
  | libPq => none
  | goMysql => none

/-- Whether the driver is one of the two pgx versions. -/
def isPgx : Driver → Bool
  | pgxV4 => true
  | pgxV5 => true
  | libPq => false
  | goMysql => false

/-- The client package that a driver belongs to. -/
def clientPackage : Driver → ClientPackage
  | pgxV4 => .pgxV4
  | pgxV5 => .pgxV5
  | libPq => .standard
  | goMysql => .standard

/-- The driver of a client package on an engine. The pgx packages exist for PostgreSQL only. -/
def resolve? : ClientPackage → Engine → Option Driver
  | .pgxV4, .postgresql => some pgxV4
  | .pgxV5, .postgresql => some pgxV5
  | .standard, .mysql => some goMysql
  | .standard, .postgresql => some libPq
  | .standard, .sqlite => some libPq
  | _, _ => none

theorem resolve?_eq_none_iff {package : ClientPackage} {engine : Engine} :
    resolve? package engine = none ↔ package ≠ .standard ∧ engine ≠ .postgresql := by
  cases package <;> cases engine <;> simp [resolve?]

theorem eq_goMysql_of_resolve? {package : ClientPackage} {driver : Driver}
    (h : resolve? package .mysql = some driver) : driver = goMysql := by
  cases package with
  | standard => exact (Option.some.inj h).symm
  | pgxV4 => cases h
  | pgxV5 => cases h

theorem eq_libPq_of_resolve? {package : ClientPackage} {driver : Driver}
    (h : resolve? package .sqlite = some driver) : driver = libPq := by
  cases package with
  | standard => exact (Option.some.inj h).symm
  | pgxV4 => cases h
  | pgxV5 => cases h

end Driver

end EntityModel
