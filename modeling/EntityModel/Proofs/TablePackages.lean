import EntityModel.Import.Default
import EntityModel.Proofs.TableTypes

/-!
# The packages of the type tables

The type tables state types without imports, and name only packages whose import is known under every driver
(`known_of_lookup`). Each table has a list of families, and the types that a family states are checked once;
what else comes out of a family is made in a few ways that leave this as it is.
-/

namespace EntityModel

/-- The packages whose import is known. -/
def Import.knownPackages : List String :=
  ["sql", "uuid", "netip", "time", "json", "net", "pgtype", "pqtype", "pq", "pgvector"]

theorem Import.isSome_default?_iff (driver : Driver) (qualifier : String) :
    (Import.default? driver qualifier).isSome = true ↔ qualifier ∈ Import.knownPackages := by
  unfold Import.default? Import.knownPackages
  split
  case h_7 => cases driver <;> simp
  all_goals simp_all

/-- A type as the tables state it: without an import, and of a package whose import is known if it has one. -/
def TargetType.Known (t : TargetType) : Prop :=
  t.origin = none ∧ (t.qualifier = "" ∨ t.qualifier ∈ Import.knownPackages)

instance (t : TargetType) : Decidable t.Known :=
  inferInstanceAs (Decidable (_ ∧ _))

namespace TargetType

@[simp] theorem known_builtin (base : String) : (builtin base).Known := ⟨rfl, .inl rfl⟩

@[simp] theorem known_bytes : bytes.Known := ⟨rfl, .inl rfl⟩

theorem known_qualified {qualifier : String} (h : qualifier ∈ Import.knownPackages) (base : String) :
    (qualified qualifier base).Known :=
  ⟨rfl, .inr h⟩

@[simp] theorem known_sql (name : String) : (sql name).Known := known_qualified (by decide) name

@[simp] theorem known_toPointer {t : TargetType} : t.toPointer.Known ↔ t.Known := Iff.rfl

end TargetType

/-! ## PostgreSQL -/

namespace Postgres

/-- The types that a family states. -/
def Family.stated : Family → List TargetType
  | .native _ base wrapped => [base, wrapped]
  | .standard base wrapped => [base, wrapped]
  | _ => []

theorem known_stated : ∀ row ∈ families, ∀ t ∈ row.2.stated, t.Known := by decide +kernel

@[simp] theorem known_pgtype (name : String) : (pgtype name).Known :=
  TargetType.known_qualified (by decide) name

@[simp] theorem known_pqtype (name : String) : (pqtype name).Known :=
  TargetType.known_qualified (by decide) name

theorem known_outcomes {family : Family} (stated : ∀ t ∈ family.stated, t.Known) :
    ∀ t ∈ family.outcomes, t.Known := by
  cases family with
  | native own base wrapped =>
    have hb : base.Known := stated base (by simp [Family.stated])
    have hw : wrapped.Known := stated wrapped (by simp [Family.stated])
    simp [Family.outcomes, hb, hw]
  | standard base wrapped =>
    have hb : base.Known := stated base (by simp [Family.stated])
    have hw : wrapped.Known := stated wrapped (by simp [Family.stated])
    simp [Family.outcomes, hb, hw]
  -- The other families state nothing and name their packages outright.
  | _ => simp (disch := decide) [Family.outcomes, TargetType.known_qualified]

end Postgres

/-! ## MySQL -/

namespace MySql

/-- The types that a family states. -/
def Family.stated : Family → List TargetType
  | .plain base _ => [base]
  | .uniform type => [type]
  | _ => []

theorem known_stated : ∀ row ∈ families, ∀ t ∈ row.2.stated, t.Known := by decide +kernel

theorem known_outcomes {family : Family} (stated : ∀ t ∈ family.stated, t.Known) :
    ∀ t ∈ family.outcomes, t.Known := by
  cases family with
  | plain base wrapper =>
    have hb : base.Known := stated base (by simp [Family.stated])
    simp [Family.outcomes, hb]
  | integer signed unsigned wrapper => simp [Family.outcomes]
  | tiny => simp [Family.outcomes]
  | uniform type => exact stated

end MySql

/-! ## SQLite -/

namespace Sqlite

/-- The types that a family states. -/
def Family.stated : Family → List TargetType
  | .plain base _ => [base]
  | .bytes => []

theorem known_stated : ∀ family ∈ allFamilies, ∀ t ∈ family.stated, t.Known := by decide +kernel

theorem known_outcomes {family : Family} (stated : ∀ t ∈ family.stated, t.Known) :
    ∀ t ∈ family.outcomes, t.Known := by
  cases family with
  | plain base wrapper =>
    have hb : base.Known := stated base (by simp [Family.stated])
    simp [Family.outcomes, hb]
  | bytes => simp [Family.outcomes]

end Sqlite

/-! ## All tables -/

theorem known_tableTypes (engine : Engine) : ∀ t ∈ engine.tableTypes, t.Known := by
  intro t ht
  cases engine with
  | postgresql =>
    obtain ⟨row, hrow, ht⟩ := List.mem_flatMap.1 ht
    exact Postgres.known_outcomes (Postgres.known_stated row hrow) t ht
  | mysql =>
    obtain ⟨row, hrow, ht⟩ := List.mem_flatMap.1 ht
    exact MySql.known_outcomes (MySql.known_stated row hrow) t ht
  | sqlite =>
    obtain ⟨family, hfamily, ht⟩ := List.mem_flatMap.1 ht
    exact Sqlite.known_outcomes (Sqlite.known_stated family hfamily) t ht

/-- Whatever a type table answers is without an import, and of a known package if it has one. -/
theorem known_of_lookup {table : TypeTable} {column : Column} {t : TargetType}
    (h : table.lookup column = .resolved t) : t.Known :=
  known_tableTypes table.engine t (mem_tableTypes_of_lookup h)

end EntityModel
