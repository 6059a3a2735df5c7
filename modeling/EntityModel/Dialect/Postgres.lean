import EntityModel.Dialect.Mapping
import EntityModel.Driver
import EntityModel.Text.Blank
import EntityModel.Text.LetterCase

/-!
# PostgreSQL types

Each SQL type belongs to a family, and the family together with the driver decides the type of the
generated code. The standard driver wraps nullable values in `sql.Null…` types, pgx in `pgtype` structs,
and pgx v5 uses pointers instead where they are asked for. Which names are known does not depend on the
driver, only whether a known one can be scanned.
-/

namespace EntityModel.Postgres

open Text

/-- A type name in lower case, without blanks around it and without the system schema in front. -/
def normalizeChars (raw : List Char) : List Char :=
  let low := lower (trim raw)
  ("pg_catalog.".toList.isPrefixOf? low).getD low

/-- The spelling under which a type name is looked up. -/
def normalize (raw : String) : String := String.ofList (normalizeChars raw.toList)

/-- What decides the generated type beside the SQL type and its nullability. -/
structure Policy where
  driver : Driver
  pointers : Bool
  deriving DecidableEq, Repr

/-- The policy of a driver. Only pgx v5 honours pointers for nullable values. -/
def Policy.of (driver : Driver) (emitPointers : Bool) : Policy :=
  ⟨driver, driver == .pgxV5 && emitPointers⟩

/-- How the types of a group are scanned. -/
inductive Family where
  /-- A built-in type; `native` is its `pgtype` struct and `standard` its `sql.Null…` wrapper. -/
  | scalar (base native standard : String)
  /-- A type that pgx v5 always scans into its own struct. -/
  | native (native : String) (base standard : TargetType)
  /-- A type that pgx has no struct for. -/
  | standard (base standard : TargetType)
  | decimal
  /-- JSON; `native` is its struct in pgx v4. -/
  | json (native : String)
  | bytes
  /-- A network address: a `netip` type in pgx v5, a struct of one name elsewhere. -/
  | network (netip native : String)
  | hardwareAddress
  /-- A range; `native` is its struct in pgx v4 and `element` the struct of its bounds in pgx v5. -/
  | range (native element : String)
  | multirange (element : String)
  /-- A type that both pgx versions scan into the struct of that name. -/
  | pgxOnly (native : String)
  /-- A type that the pgx versions scan into differently named structs. -/
  | pgxVersions (v4 v5 : String)
  | vector
  deriving DecidableEq, Repr

/-- The type names of each family. -/
def families : List (List String × Family) :=
  [(["serial", "serial4", "integer", "int", "int4"], .scalar "int32" "Int4" "NullInt32"),
   (["bigserial", "serial8", "bigint", "int8"], .scalar "int64" "Int8" "NullInt64"),
   (["smallserial", "serial2", "smallint", "int2"], .scalar "int16" "Int2" "NullInt16"),
   (["float", "double precision", "float8"], .scalar "float64" "Float8" "NullFloat64"),
   (["real", "float4"], .scalar "float32" "Float4" "NullFloat64"),
   (["boolean", "bool"], .scalar "bool" "Bool" "NullBool"),
   (["numeric", "decimal", "money"], .decimal),
   (["json"], .json "JSON"),
   (["jsonb"], .json "JSONB"),
   (["bytea", "blob"], .bytes),
   (["date"], .native "Date" .time (.sql "NullTime")),
   (["time"], .native "Time" .time (.sql "NullTime")),
   (["timestamp"], .native "Timestamp" .time (.sql "NullTime")),
   (["timestamptz"], .native "Timestamptz" .time (.sql "NullTime")),
   (["timetz"], .standard .time (.sql "NullTime")),
   (["text", "varchar", "bpchar", "character varying", "character", "char", "string", "citext", "name"],
    .scalar "string" "Text" "NullString"),
   (["ltree", "lquery", "ltxtquery"], .scalar "string" "Text" "NullString"),
   (["uuid"], .native "UUID" (.qualified "uuid" "UUID") (.qualified "uuid" "NullUUID")),
   (["interval"], .native "Interval" (.builtin "int64") (.sql "NullInt64")),
   (["inet"], .network "Addr" "Inet"),
   (["cidr"], .network "Prefix" "CIDR"),
   (["macaddr", "macaddr8"], .hardwareAddress),
   (["daterange"], .range "Daterange" "Date"),
   (["tsrange"], .range "Tsrange" "Timestamp"),
   (["tstzrange"], .range "Tstzrange" "Timestamptz"),
   (["numrange"], .range "Numrange" "Numeric"),
   (["int4range"], .range "Int4range" "Int4"),
   (["int8range"], .range "Int8range" "Int8"),
   (["datemultirange"], .multirange "Date"),
   (["tsmultirange"], .multirange "Timestamp"),
   (["tstzmultirange"], .multirange "Timestamptz"),
   (["nummultirange"], .multirange "Numeric"),
   (["int4multirange"], .multirange "Int4"),
   (["int8multirange"], .multirange "Int8"),
   (["hstore"], .pgxOnly "Hstore"),
   (["bit", "varbit"], .pgxVersions "Varbit" "Bits"),
   (["cid"], .pgxVersions "CID" "Uint32"),
   (["oid"], .pgxVersions "OID" "Uint32"),
   (["xid"], .pgxVersions "XID" "Uint32"),
   (["tid"], .pgxOnly "TID"),
   (["box"], .pgxOnly "Box"),
   (["circle"], .pgxOnly "Circle"),
   (["line"], .pgxOnly "Line"),
   (["lseg"], .pgxOnly "Lseg"),
   (["path"], .pgxOnly "Path"),
   (["point"], .pgxOnly "Point"),
   (["polygon"], .pgxOnly "Polygon"),
   (["vector"], .vector)]

/-- The family of a normalized type name. -/
def family? (name : String) : Option Family := (families.find? fun row => name ∈ row.1).map (·.2)

/-- The struct of that name from the package that pgx scans into. -/
def pgtype (name : String) : TargetType := .qualified "pgtype" name

/-- The struct of that name from the companion package of the standard driver. -/
def pqtype (name : String) : TargetType := .qualified "pqtype" name

namespace Policy

/-- A type without a `pgtype` struct: itself if never null, else a pointer or the standard wrapper. -/
def standard (p : Policy) (notNull : Bool) (base wrapped : TargetType) : TargetType :=
  if notNull then base else if p.pointers then base.toPointer else wrapped

/-- A type with a `pgtype` struct for its nullable values under pgx. -/
def nullable (p : Policy) (notNull : Bool) (base : TargetType) (native : String)
    (wrapped : TargetType) : TargetType :=
  p.standard notNull base (if p.driver.isPgx then pgtype native else wrapped)

/-- A type that pgx v5 scans into its own struct whether it can be null or not. -/
def native (p : Policy) (notNull : Bool) (name : String) (base wrapped : TargetType) : TargetType :=
  if p.driver = .pgxV5 then pgtype name else p.nullable notNull base name wrapped

/-- The type of a family under a policy, none if the driver cannot scan the family. -/
def type? (p : Policy) (notNull : Bool) : Family → Option TargetType
  | .scalar base native standard => some (p.nullable notNull (.builtin base) native (.sql standard))
  | .native name base standard => some (p.native notNull name base standard)
  | .standard base standard => some (p.standard notNull base standard)
  | .decimal =>
    some (if p.driver.isPgx then pgtype "Numeric"
      else p.standard notNull (.builtin "string") (.sql "NullString"))
  | .json native =>
    some (match p.driver with
      | .pgxV5 => .bytes
      | .pgxV4 => pgtype native
      | .libPq | .goMysql => if notNull then .qualified "json" "RawMessage" else pqtype "NullRawMessage")
  | .bytes => some .bytes
  | .network netip native =>
    some (match p.driver with
      | .pgxV5 =>
        if notNull then .qualified "netip" netip else (TargetType.qualified "netip" netip).toPointer
      | .pgxV4 => pgtype native
      | .libPq | .goMysql => pqtype native)
  | .hardwareAddress =>
    some (match p.driver with
      | .pgxV5 => .qualified "net" "HardwareAddr"
      | .pgxV4 => pgtype "Macaddr"
      | .libPq | .goMysql => pqtype "Macaddr")
  | .range native element =>
    match p.driver with
    | .pgxV4 => some (pgtype native)
    | .pgxV5 => some (pgtype ("Range[pgtype." ++ element ++ "]"))
    | .libPq | .goMysql => none
  | .multirange element =>
    if p.driver = .pgxV5 then some (pgtype ("Multirange[pgtype.Range[pgtype." ++ element ++ "]]")) else none
  | .pgxOnly native => if p.driver.isPgx then some (pgtype native) else none
  | .pgxVersions v4 v5 =>
    match p.driver with
    | .pgxV4 => some (pgtype v4)
    | .pgxV5 => some (pgtype v5)
    | .libPq | .goMysql => none
  | .vector =>
    if p.driver = .pgxV5 then
      some (if !notNull && p.pointers then (TargetType.qualified "pgvector" "Vector").toPointer
        else .qualified "pgvector" "Vector")
    else none

/-- The table's answer for a normalized type name. -/
def map (p : Policy) (name : String) (notNull : Bool) : Mapping :=
  match family? name with
  | none => .unknown
  | some family =>
    match p.type? notNull family with
    | some type => .resolved type
    | none => .unsupported

/-- Whether a name is known does not depend on the policy. -/
theorem map_eq_unknown_iff (p : Policy) (name : String) (notNull : Bool) :
    p.map name notNull = .unknown ↔ family? name = none := by
  unfold map
  cases family? name with
  | none => simp
  | some family => cases h : p.type? notNull family <;> simp [h]

end Policy

end EntityModel.Postgres
