import EntityModel.Proofs.TableTypes

/-!
# Nullability of the table types

A table is asked for a column twice, once as never null and once with nulls. Both answers fail alike, or both give
a type: one that shows no nulls (`TargetType.isDefinite`) and one that can hold them (`TargetType.isBare` is
false). Only an enumeration of MySQL is the same plain string in both cases.

Every decision of a table is taken for such a pair of types at once, and what it needs of the names in its rows is
checked on the rows (`Family.isSound`). Main statement: the answers of all tables are such pairs
(`lookup_scalar_paired`).
-/

namespace EntityModel

/-! ## Pairs of types and of answers -/

namespace TargetType

/-- A type of the `Null…` family of some package. -/
def isNullWrapper (t : TargetType) : Bool := "Null".toList.isPrefixOf t.base.toList

/-- A type that shows no nulls: neither a pointer nor a wrapper for them. -/
def isDefinite (t : TargetType) : Bool := !t.pointer && !t.isNullWrapper

/-- A type of the language itself with no pointer and no array around it. -/
def isBare (t : TargetType) : Bool := t.qualifier == "" && !t.pointer && !t.array

/-- The type of values that are never null, and the type of such values or null. -/
structure NullPair (full nullable : TargetType) : Prop where
  definite : full.isDefinite = true
  notBare : nullable.isBare = false

theorem isBare_toPointer (t : TargetType) : t.toPointer.isBare = false := by simp [toPointer, isBare]

theorem isBare_qualified {qualifier : String} (h : qualifier ≠ "") (base : String) :
    (qualified qualifier base).isBare = false := by simp [qualified, isBare, h]

theorem isBare_sql (name : String) : (sql name).isBare = false := isBare_qualified (by decide) name

/-- Byte strings are the same with nulls. -/
theorem nullPair_bytes : NullPair .bytes .bytes := ⟨rfl, rfl⟩

end TargetType

/-- Two answers that fail alike, or give types that are related. -/
inductive Mapping.Paired (R : TargetType → TargetType → Prop) : Mapping → Mapping → Prop where
  | resolved {t u : TargetType} (related : R t u) : Paired R (.resolved t) (.resolved u)
  | unsupported : Paired R .unsupported .unsupported
  | unknown : Paired R .unknown .unknown

/-- The column as one that is no array, with or without nulls. -/
def Column.scalar (column : Column) (notNull : Bool) : Column := { column with notNull, isArray := false }

theorem Column.effectiveNotNull_scalar (column : Column) (notNull : Bool) :
    (column.scalar notNull).effectiveNotNull = notNull := by simp [scalar, effectiveNotNull]

open TargetType (NullPair)

/-! ## PostgreSQL -/

namespace Postgres

theorem isBare_pgtype (name : String) : (pgtype name).isBare = false :=
  TargetType.isBare_qualified (by decide) name

theorem isBare_pqtype (name : String) : (pqtype name).isBare = false :=
  TargetType.isBare_qualified (by decide) name

/-- What the names of a family have to be like: those for values that are never null say nothing about nulls, and
a wrapper that the row states in full is no bare type. -/
def Family.isSound : Family → Bool
  | .scalar base _ _ => (TargetType.builtin base).isDefinite
  | .native own base wrapped => (pgtype own).isDefinite && base.isDefinite && !wrapped.isBare
  | .standard base wrapped => base.isDefinite && !wrapped.isBare
  | .json own => (pgtype own).isDefinite
  | .network netip own =>
    (TargetType.qualified "netip" netip).isDefinite && (pgtype own).isDefinite && (pqtype own).isDefinite
  | .range own element => (pgtype own).isDefinite && (pgtype ("Range[pgtype." ++ element ++ "]")).isDefinite
  | .multirange element => (pgtype ("Multirange[pgtype.Range[pgtype." ++ element ++ "]]")).isDefinite
  | .pgxOnly own => (pgtype own).isDefinite
  | .pgxVersions v4 v5 => (pgtype v4).isDefinite && (pgtype v5).isDefinite
  | .decimal | .bytes | .hardwareAddress | .vector => true

theorem isSound_families : families.all (·.2.isSound) = true := by decide +kernel

theorem isSound_of_family? {name : String} {family : Family} (h : family? name = some family) :
    family.isSound = true := by
  obtain ⟨row, hrow, rfl⟩ := Option.map_eq_some_iff.1 h
  exact List.all_eq_true.1 isSound_families row (List.mem_of_find?_eq_some hrow)

namespace Policy

variable (p : Policy)

theorem standard_nullPair {base wrapped : TargetType} (hbase : base.isDefinite = true)
    (hwrapped : wrapped.isBare = false) :
    NullPair (p.standard true base wrapped) (p.standard false base wrapped) := by
  refine ⟨hbase, ?_⟩
  unfold standard
  rw [if_neg Bool.false_ne_true]
  split
  · exact base.isBare_toPointer
  · exact hwrapped

theorem nullable_nullPair {base wrapped : TargetType} (own : String) (hbase : base.isDefinite = true)
    (hwrapped : wrapped.isBare = false) :
    NullPair (p.nullable true base own wrapped) (p.nullable false base own wrapped) := by
  refine p.standard_nullPair hbase ?_
  split
  · exact isBare_pgtype own
  · exact hwrapped

theorem native_nullPair {base wrapped : TargetType} {own : String} (hown : (pgtype own).isDefinite = true)
    (hbase : base.isDefinite = true) (hwrapped : wrapped.isBare = false) :
    NullPair (p.native true own base wrapped) (p.native false own base wrapped) := by
  unfold native
  split
  · exact ⟨hown, isBare_pgtype own⟩
  · exact p.nullable_nullPair own hbase hwrapped

/-- A family that a driver cannot scan cannot be scanned with nulls either. -/
theorem type?_nullPair {family : Family} (h : family.isSound = true) :
    Option.Rel NullPair (p.type? true family) (p.type? false family) := by
  have hsame (t : TargetType) (definite : t.isDefinite = true) (notBare : t.isBare = false) :
      Option.Rel NullPair (some t) (some t) := .some ⟨definite, notBare⟩
  have hpgtype (own : String) (hown : (pgtype own).isDefinite = true) := hsame _ hown (isBare_pgtype own)
  have hpqtype (own : String) (hown : (pqtype own).isDefinite = true) := hsame _ hown (isBare_pqtype own)
  have hmessage : NullPair (.qualified "json" "RawMessage") (pqtype "NullRawMessage") := ⟨rfl, rfl⟩
  have hvector : NullPair (.qualified "pgvector" "Vector")
      (TargetType.qualified "pgvector" "Vector").toPointer := ⟨rfl, rfl⟩
  -- Where the driver decides, it gives a type for both cases or for neither.
  obtain ⟨driver, pointers⟩ := p
  cases family with
  | scalar base own wrapped => exact .some (nullable_nullPair _ own h (TargetType.isBare_sql wrapped))
  | native own base wrapped =>
    simp only [Family.isSound, Bool.and_eq_true, Bool.not_eq_true'] at h
    exact .some (native_nullPair _ h.1.1 h.1.2 h.2)
  | standard base wrapped =>
    simp only [Family.isSound, Bool.and_eq_true, Bool.not_eq_true'] at h
    exact .some (standard_nullPair _ h.1 h.2)
  | decimal =>
    simp only [type?]
    split
    · exact hpgtype "Numeric" rfl
    · exact .some (standard_nullPair _ rfl rfl)
  | json own =>
    cases driver with
    | pgxV5 => exact .some TargetType.nullPair_bytes
    | pgxV4 => exact hpgtype own h
    | libPq => exact .some hmessage
    | goMysql => exact .some hmessage
  | bytes => exact .some TargetType.nullPair_bytes
  | network netip own =>
    simp only [Family.isSound, Bool.and_eq_true] at h
    obtain ⟨⟨hnetip, hown⟩, hcompanion⟩ := h
    cases driver with
    | pgxV5 => exact .some ⟨hnetip, TargetType.isBare_toPointer _⟩
    | pgxV4 => exact hpgtype own hown
    | libPq => exact hpqtype own hcompanion
    | goMysql => exact hpqtype own hcompanion
  | hardwareAddress =>
    cases driver with
    | pgxV5 => exact hsame (.qualified "net" "HardwareAddr") rfl rfl
    | pgxV4 => exact hpgtype "Macaddr" rfl
    | libPq => exact hpqtype "Macaddr" rfl
    | goMysql => exact hpqtype "Macaddr" rfl
  | range own element =>
    simp only [Family.isSound, Bool.and_eq_true] at h
    cases driver with
    | pgxV4 => exact hpgtype _ h.1
    | pgxV5 => exact hpgtype _ h.2
    | libPq => exact .none
    | goMysql => exact .none
  | multirange element =>
    simp only [type?]
    split
    · exact hpgtype _ h
    · exact .none
  | pgxOnly own =>
    simp only [type?]
    split
    · exact hpgtype _ h
    · exact .none
  | pgxVersions v4 v5 =>
    simp only [Family.isSound, Bool.and_eq_true] at h
    cases driver with
    | pgxV4 => exact hpgtype _ h.1
    | pgxV5 => exact hpgtype _ h.2
    | libPq => exact .none
    | goMysql => exact .none
  | vector =>
    simp only [type?]
    split
    · cases pointers with
      | true => exact .some hvector
      | false => exact hsame (.qualified "pgvector" "Vector") rfl rfl
    · exact .none

theorem map_paired (name : String) : Mapping.Paired NullPair (p.map name true) (p.map name false) := by
  unfold map
  cases hfamily : family? name with
  | none => exact .unknown
  | some family =>
    have h := p.type?_nullPair (isSound_of_family? hfamily)
    dsimp only
    generalize p.type? true family = full at h ⊢
    generalize p.type? false family = nullable at h ⊢
    cases h with
    | some related => exact .resolved related
    | none => exact .unsupported

end Policy

end Postgres

/-! ## MySQL -/

namespace MySql

/-- What the names of a family have to be like: those for values that are never null say nothing about nulls, and
a type that is the same with nulls is no bare type. -/
def Family.isSound : Family → Bool
  | .plain base _ => base.isDefinite
  | .integer signed unsigned _ =>
    (TargetType.builtin signed).isDefinite && (TargetType.builtin unsigned).isDefinite
  | .tiny => true
  | .uniform type => type.isDefinite && !type.isBare

/-- The name of the type whose nullable values look like all others. -/
def enumName : String := "enum"

theorem isSound_families : families.all (fun row => row.2.isSound || row.1 == [enumName]) = true := by
  decide +kernel

theorem isSound_of_family? {name : String} {family : Family} (h : family? name = some family)
    (hname : name ≠ enumName) : family.isSound = true := by
  obtain ⟨row, hrow, rfl⟩ := Option.map_eq_some_iff.1 h
  have hsound := List.all_eq_true.1 isSound_families row (List.mem_of_find?_eq_some hrow)
  rw [Bool.or_eq_true, beq_iff_eq] at hsound
  refine hsound.resolve_right fun henum => ?_
  have hmem : name ∈ row.1 := by simpa using List.find?_some hrow
  rw [henum, List.mem_singleton] at hmem
  exact hname hmem

theorem type_nullPair {family : Family} (h : family.isSound = true) (isUnsigned : Bool) (length : Int32) :
    NullPair (family.type true isUnsigned length) (family.type false isUnsigned length) := by
  cases family with
  | plain base wrapper => exact ⟨h, TargetType.isBare_sql wrapper⟩
  | integer signed unsigned wrapper =>
    simp only [Family.isSound, Bool.and_eq_true] at h
    refine ⟨?_, TargetType.isBare_sql wrapper⟩
    cases isUnsigned with
    | true => exact h.2
    | false => exact h.1
  | tiny =>
    by_cases hlength : length = 1
    · simp only [Family.type, if_pos hlength]
      exact ⟨rfl, TargetType.isBare_sql "NullBool"⟩
    · simp only [Family.type, if_neg hlength]
      refine ⟨?_, TargetType.isBare_sql "NullInt16"⟩
      cases isUnsigned <;> rfl
  | uniform type =>
    simp only [Family.isSound, Bool.and_eq_true, Bool.not_eq_true'] at h
    exact ⟨h.1, h.2⟩

theorem map_paired {name : String} (h : name ≠ enumName) (isUnsigned : Bool) (length : Int32) :
    Mapping.Paired NullPair (map name true isUnsigned length) (map name false isUnsigned length) := by
  unfold map
  cases hfamily : family? name with
  | none => exact .unknown
  | some family => exact .resolved (type_nullPair (isSound_of_family? hfamily h) isUnsigned length)

theorem map_enumName (notNull isUnsigned : Bool) (length : Int32) :
    map enumName notNull isUnsigned length = .resolved (.builtin "string") := by
  have hfamily : family? enumName = some (.uniform (.builtin "string")) := by decide +kernel
  rw [map, hfamily]
  rfl

end MySql

/-! ## SQLite -/

namespace Sqlite

/-- What the names of a family have to be like: those for values that are never null say nothing about nulls. -/
def Family.isSound : Family → Bool
  | .plain base _ => base.isDefinite
  | .bytes => true

theorem isSound_allFamilies : allFamilies.all (·.isSound) = true := by decide +kernel

theorem type_nullPair {family : Family} (h : family.isSound = true) (pointers : Bool) :
    NullPair (family.type pointers true) (family.type pointers false) := by
  cases family with
  | plain base wrapper =>
    refine ⟨h, ?_⟩
    cases pointers with
    | true => exact base.isBare_toPointer
    | false => exact TargetType.isBare_sql wrapper
  | bytes => exact TargetType.nullPair_bytes

theorem map_paired (pointers : Bool) (name : String) :
    Mapping.Paired NullPair (map pointers name true) (map pointers name false) := by
  unfold map
  cases hfamily : family? name with
  | none => exact .unknown
  | some family =>
    have hsound := List.all_eq_true.1 isSound_allFamilies family (mem_allFamilies_of_family? hfamily)
    exact .resolved (type_nullPair hsound pointers)

end Sqlite

/-! ## All tables -/

/-- Under any driver and with or without pointers, a table answers for a column that is never null and for the same
column with nulls alike: it fails for both in the same way, or gives a type that shows no nulls and one that can
hold them. Only the enumerations of MySQL are the same plain string in both cases. -/
theorem lookup_scalar_paired (engine : Engine) (driver : Driver) (emitPointers : Bool) (column : Column) :
    if engine = .mysql ∧ engine.normalizeTypeName column.dataType = "enum" then
      ∀ notNull, (TypeTable.of engine driver emitPointers).lookup (column.scalar notNull) =
        .resolved (.builtin "string")
    else
      Mapping.Paired NullPair ((TypeTable.of engine driver emitPointers).lookup (column.scalar true))
        ((TypeTable.of engine driver emitPointers).lookup (column.scalar false)) := by
  unfold TypeTable.lookup
  simp only [Column.effectiveNotNull_scalar]
  cases engine with
  | postgresql => exact Postgres.Policy.map_paired _ _
  | mysql =>
    split
    · next h =>
      intro notNull
      rw [← MySql.map_enumName notNull column.unsigned column.length, MySql.enumName, ← h.2]
      rfl
    · next h => exact MySql.map_paired (fun hname => h ⟨rfl, hname⟩) _ _
  | sqlite => exact Sqlite.map_paired _ _

end EntityModel
