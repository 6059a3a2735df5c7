import EntityModel.Dialect.TypeTable

/-!
# The types that a table can give

A table's answer depends on the driver, on whether pointers are asked for and on the column. For each family
of type names only a few types come out of it, which `Family.outcomes` lists without these circumstances, and
`Engine.tableTypes` is the list for a whole table. What a table answers is in the list of its engine
(`mem_tableTypes_of_lookup`), so that what is to hold of all answers can be checked on finitely many types.
-/

namespace EntityModel

/-! ## PostgreSQL -/

namespace Postgres

/-- The types of a family under all policies. -/
def Family.outcomes : Family → List TargetType
  | .scalar base own wrapped =>
    [.builtin base, (TargetType.builtin base).toPointer, pgtype own, .sql wrapped]
  | .native own base wrapped => [base, base.toPointer, pgtype own, wrapped]
  | .standard base wrapped => [base, base.toPointer, wrapped]
  | .decimal =>
    [pgtype "Numeric", .builtin "string", (TargetType.builtin "string").toPointer, .sql "NullString"]
  | .json own => [.bytes, pgtype own, .qualified "json" "RawMessage", pqtype "NullRawMessage"]
  | .bytes => [.bytes]
  | .network netip own =>
    [.qualified "netip" netip, (TargetType.qualified "netip" netip).toPointer, pgtype own, pqtype own]
  | .hardwareAddress => [.qualified "net" "HardwareAddr", pgtype "Macaddr", pqtype "Macaddr"]
  | .range own element => [pgtype own, pgtype ("Range[pgtype." ++ element ++ "]")]
  | .multirange element => [pgtype ("Multirange[pgtype.Range[pgtype." ++ element ++ "]]")]
  | .pgxOnly own => [pgtype own]
  | .pgxVersions v4 v5 => [pgtype v4, pgtype v5]
  | .vector => [.qualified "pgvector" "Vector", (TargetType.qualified "pgvector" "Vector").toPointer]

namespace Policy

variable (p : Policy) (notNull : Bool)

theorem standard_mem (base wrapped : TargetType) :
    p.standard notNull base wrapped ∈ [base, base.toPointer, wrapped] := by
  unfold standard
  split
  · simp
  · split
    · simp
    · simp

theorem nullable_mem (base : TargetType) (name : String) (wrapped : TargetType) :
    p.nullable notNull base name wrapped ∈ [base, base.toPointer, pgtype name, wrapped] := by
  unfold nullable
  have h := p.standard_mem notNull base (if p.driver.isPgx then pgtype name else wrapped)
  split at h
  · next hpgx =>
    rw [if_pos hpgx]
    exact List.mem_append_left [wrapped] h
  · next hpgx =>
    rw [if_neg hpgx]
    exact List.Sublist.mem h (by simp)

theorem native_mem (name : String) (base wrapped : TargetType) :
    p.native notNull name base wrapped ∈ [base, base.toPointer, pgtype name, wrapped] := by
  unfold native
  split
  · simp
  · exact p.nullable_mem notNull base name wrapped

variable {p notNull} {family : Family} {t : TargetType}

theorem mem_outcomes_of_type? (h : p.type? notNull family = some t) : t ∈ family.outcomes := by
  cases family with
  | scalar base own wrapped =>
    cases h
    exact p.nullable_mem notNull _ own _
  | native own base wrapped =>
    cases h
    exact p.native_mem notNull own base wrapped
  | standard base wrapped =>
    cases h
    exact p.standard_mem notNull base wrapped
  | decimal =>
    cases h
    split
    · exact List.mem_cons_self
    · exact List.mem_cons_of_mem _ (p.standard_mem notNull _ _)
  | bytes =>
    cases h
    exact List.mem_cons_self
  -- The other families ask for the driver and the nullability and list one type for each answer.
  | _ =>
    simp only [type?] at h
    grind [Family.outcomes]

theorem exists_family_of_map {name : String} (h : p.map name notNull = .resolved t) :
    ∃ row ∈ families, t ∈ row.2.outcomes := by
  unfold map at h
  split at h
  · cases h
  · next family hf =>
    obtain ⟨row, hrow, rfl⟩ := Option.map_eq_some_iff.1 hf
    split at h
    · next type ht =>
      cases h
      exact ⟨row, List.mem_of_find?_eq_some hrow, mem_outcomes_of_type? ht⟩
    · cases h

end Policy

end Postgres

/-! ## MySQL -/

namespace MySql

/-- The types of a family under all circumstances. -/
def Family.outcomes : Family → List TargetType
  | .plain base wrapper => [base, .sql wrapper]
  | .integer signed unsigned wrapper => [.builtin signed, .builtin unsigned, .sql wrapper]
  | .tiny => [.builtin "bool", .sql "NullBool", .builtin "uint8", .builtin "int8", .sql "NullInt16"]
  | .uniform type => [type]

theorem type_mem_outcomes (family : Family) (notNull isUnsigned : Bool) (length : Int32) :
    family.type notNull isUnsigned length ∈ family.outcomes := by
  cases family with
  | plain base wrapper => cases notNull <;> simp [Family.type, Family.outcomes]
  | integer signed unsigned wrapper =>
    cases notNull <;> cases isUnsigned <;> simp [Family.type, Family.outcomes]
  | tiny =>
    by_cases h : length = 1
    · cases notNull <;> simp [Family.type, Family.outcomes, h]
    · cases notNull <;> cases isUnsigned <;> simp [Family.type, Family.outcomes, h]
  | uniform type => simp [Family.type, Family.outcomes]

theorem exists_family_of_map {name : String} {notNull isUnsigned : Bool} {length : Int32} {t : TargetType}
    (h : map name notNull isUnsigned length = .resolved t) : ∃ row ∈ families, t ∈ row.2.outcomes := by
  unfold map at h
  split at h
  · next family hf =>
    obtain ⟨row, hrow, rfl⟩ := Option.map_eq_some_iff.1 hf
    cases h
    exact ⟨row, List.mem_of_find?_eq_some hrow, type_mem_outcomes _ _ _ _⟩
  · cases h

end MySql

/-! ## SQLite -/

namespace Sqlite

/-- The types of a family under all circumstances. -/
def Family.outcomes : Family → List TargetType
  | .plain base wrapper => [base, base.toPointer, .sql wrapper]
  | .bytes => [.bytes]

/-- All families: those that are recognised by the whole name, and those of characters and decimals. -/
def allFamilies : List Family :=
  families.map (·.2) ++ [.plain (.builtin "string") "NullString", .plain (.builtin "float64") "NullFloat64"]

theorem type_mem_outcomes (family : Family) (pointers notNull : Bool) :
    family.type pointers notNull ∈ family.outcomes := by
  cases family with
  | plain base wrapper => cases pointers <;> cases notNull <;> simp [Family.type, Family.outcomes]
  | bytes => simp [Family.type, Family.outcomes]

theorem mem_allFamilies_of_family? {name : String} {family : Family} (h : family? name = some family) :
    family ∈ allFamilies := by
  unfold family? at h
  split at h
  · next row hrow =>
    cases h
    exact List.mem_append_left _ (List.mem_map_of_mem (List.mem_of_find?_eq_some hrow))
  · refine List.mem_append_right _ ?_
    split at h
    · cases h
      simp
    · split at h
      · cases h
        simp
      · cases h

theorem exists_family_of_map {pointers notNull : Bool} {name : String} {t : TargetType}
    (h : map pointers name notNull = .resolved t) : ∃ family ∈ allFamilies, t ∈ family.outcomes := by
  unfold map at h
  split at h
  · next family hf =>
    cases h
    exact ⟨family, mem_allFamilies_of_family? hf, type_mem_outcomes _ _ _⟩
  · cases h

end Sqlite

/-! ## All tables -/

/-- The types that the table of an engine can give, under any driver and for any column. -/
def Engine.tableTypes : Engine → List TargetType
  | .postgresql => Postgres.families.flatMap (·.2.outcomes)
  | .mysql => MySql.families.flatMap (·.2.outcomes)
  | .sqlite => Sqlite.allFamilies.flatMap (·.outcomes)

theorem mem_tableTypes_of_lookup {table : TypeTable} {column : Column} {t : TargetType}
    (h : table.lookup column = .resolved t) : t ∈ table.engine.tableTypes := by
  unfold TypeTable.lookup at h
  cases table with
  | postgres policy => exact List.mem_flatMap.2 (Postgres.Policy.exists_family_of_map h)
  | mysql => exact List.mem_flatMap.2 (MySql.exists_family_of_map h)
  | sqlite pointers => exact List.mem_flatMap.2 (Sqlite.exists_family_of_map h)

end EntityModel
