import EntityModel.Proofs.Settlement
import EntityModel.Resolution

/-!
# The order of the sources of a column type

A column's type is looked for in the overrides, then in the engine's table, then among the custom types,
and is the untyped placeholder otherwise. `Answers` states this order as a relation, of which every column
has exactly one instance, and `Completes` what happens to the type that is found: it keeps what it is
called and gains a missing import and the dimensions of arrays and slices. `Answers.resolve_eq` is the exact
form of both, from which other modules start.

Main statement: under accepted options, resolving a column with any reports collected so far completes
the type of the source that answers and adds the reports of that source, which are none unless it is the
placeholder (`resolveOnto_follows_sources`). The table of an engine names a driver of its own; that it is
the driver of the options (`driver_typeTable`) needs the options to be accepted.
-/

namespace EntityModel

variable {lib : Libraries}

/-! ## The type table of accepted options -/

theorem Driver.resolve_eq_ok_iff {package : ClientPackage} {engine : Engine} {driver : Driver} :
    Driver.resolve package engine = .ok driver ↔ Driver.resolve? package engine = some driver := by
  unfold Driver.resolve
  split
  · next h => simp [h]
  · next h => simp [h]

theorem engine_typeTable (o : Options) : o.typeTable.engine = o.engine :=
  TypeTable.engine_of o.engine o.driver o.emitPointers

/-- The other engines have one driver only, which is the one that their tables name. -/
theorem driver_typeTable {engine : Engine} {fallbackSchema : String} {d : OptionsDocument}
    {g : GlobalOptionsDocument} {o : Options} (h : Settled lib engine fallbackSchema d g o) :
    o.typeTable.driver = o.driver := by
  have hd := Driver.resolve_eq_ok_iff.1 h.driver
  rw [Options.typeTable, h.sameEngine]
  cases engine with
  | postgresql => rfl
  | mysql => exact (Driver.eq_goMysql_of_resolve? hd).symm
  | sqlite => exact (Driver.eq_libPq_of_resolve? hd).symm

/-! ## Sources -/

/-- The answer of a type table that gives no type for this reason. -/
def TypeGap.mapping : TypeGap → Mapping
  | unknownType => .unknown
  | unsupportedForDriver => .unsupported

/-- Where the type of a column comes from, with what is found there. -/
inductive TypeSource where
  | override (rule : Override)
  | table (type : TargetType)
  | custom (entry : CustomType)
  | placeholder (gap : TypeGap)
  deriving DecidableEq, Repr

namespace TypeSource

/-- The type as the source has it. -/
def type : TypeSource → TargetType
  | override rule => rule.type
  | table type => type
  | custom entry => entry.type
  | placeholder _ => .untyped

/-- The dimensions that a column adds to the type. An override gives the type of a native array as a
whole; the other sources give that of its elements. -/
def extraDepth (column : Column) : TypeSource → Nat
  | override _ => if column.isSlice ∧ column.isArray = false then 1 else 0
  | table _ | custom _ | placeholder _ =>
    if column.isArray then max 1 column.arrayDims.toNat else if column.isSlice then 1 else 0

/-- The wording of a report, with the engine and the driver of the options. -/
def reportText (o : Options) (sqlType : String) : TypeGap → String
  | .unknownType => "unknown " ++ o.engine.name ++ " type: " ++ sqlType
  | .unsupportedForDriver =>
    o.engine.name ++ " type " ++ sqlType ++ " is not supported by driver " ++ o.driver.path

/-- The reports that a column adds: one if no source has its type, and none otherwise. -/
def reports (o : Options) (column : Column) : TypeSource → Diagnostics
  | placeholder gap =>
    [{ kind := gap
       table := column.tableName
       column := column.name
       sqlType := column.dataType
       message := reportText o column.dataType gap }]
  | override _ | table _ | custom _ => []

end TypeSource

/-- The source that gives a column its type. Each has to pass before the next one is asked. -/
inductive Answers (o : Options) (custom : CustomTypes) (column : Column) : TypeSource → Prop where
  | override {rule : Override} (found : o.override? column = some rule) :
    Answers o custom column (.override rule)
  | table {type : TargetType} (noOverride : o.override? column = none)
      (found : o.typeTable.lookup column = .resolved type) :
    Answers o custom column (.table type)
  | custom {gap : TypeGap} {entry : CustomType} (noOverride : o.override? column = none)
      (notInTable : o.typeTable.lookup column = gap.mapping)
      (found : custom.find? column column.effectiveNotNull = some entry) :
    Answers o custom column (.custom entry)
  | placeholder {gap : TypeGap} (noOverride : o.override? column = none)
      (notInTable : o.typeTable.lookup column = gap.mapping)
      (notDeclared : custom.find? column column.effectiveNotNull = none) :
    Answers o custom column (.placeholder gap)

theorem lookup_cases (table : TypeTable) (column : Column) :
    (∃ type, table.lookup column = .resolved type) ∨
      ∃ gap : TypeGap, table.lookup column = gap.mapping := by
  cases h : table.lookup column with
  | resolved type => exact .inl ⟨type, rfl⟩
  | unsupported => exact .inr ⟨.unsupportedForDriver, rfl⟩
  | unknown => exact .inr ⟨.unknownType, rfl⟩

theorem exists_answers (o : Options) (custom : CustomTypes) (column : Column) :
    ∃ source, Answers o custom column source := by
  cases ho : o.override? column with
  | some rule => exact ⟨_, .override ho⟩
  | none =>
    rcases lookup_cases o.typeTable column with ⟨type, ht⟩ | ⟨gap, hg⟩
    · exact ⟨_, .table ho ht⟩
    · cases hc : custom.find? column column.effectiveNotNull with
      | some entry => exact ⟨_, .custom ho hg hc⟩
      | none => exact ⟨_, .placeholder ho hg hc⟩

theorem TypeGap.mapping_injective : Function.Injective TypeGap.mapping := by
  intro a b h
  cases a <;> cases b <;> simp_all [TypeGap.mapping]

theorem TypeGap.mapping_ne_resolved (gap : TypeGap) (type : TargetType) :
    gap.mapping ≠ .resolved type := by
  cases gap <;> simp [TypeGap.mapping]

/-- No two sources answer for one column. -/
theorem Answers.unique {o : Options} {custom : CustomTypes} {column : Column} {s t : TypeSource}
    (hs : Answers o custom column s) (ht : Answers o custom column t) : s = t := by
  cases hs with
  | override hs => cases ht <;> simp_all
  | table ho hs =>
    cases ht with
    | override ht => simp_all
    | table _ ht => simp_all
    | custom _ ht _ => exact absurd (ht.symm.trans hs) (TypeGap.mapping_ne_resolved _ _)
    | placeholder _ ht _ => exact absurd (ht.symm.trans hs) (TypeGap.mapping_ne_resolved _ _)
  | custom ho hg hs =>
    cases ht with
    | override ht => simp_all
    | table _ ht => exact absurd (hg.symm.trans ht) (TypeGap.mapping_ne_resolved _ _)
    | custom _ _ ht => simp_all
    | placeholder _ _ ht => simp_all
  | placeholder ho hg hs =>
    cases ht with
    | override ht => simp_all
    | table _ ht => exact absurd (hg.symm.trans ht) (TypeGap.mapping_ne_resolved _ _)
    | custom _ _ ht => simp_all
    | placeholder _ hg' _ => rw [TypeGap.mapping_injective (hg.symm.trans hg')]

/-! ## Completing the type of a source -/

/-- A type with its import looked up if it has none, and with more dimensions; nothing else differs. The
dimensions are counted in 32 bits. -/
structure Completes (driver : Driver) (found : TargetType) (extra : Nat) (result : TargetType) : Prop where
  base : result.base = found.base
  qualifier : result.qualifier = found.qualifier
  pointer : result.pointer = found.pointer
  origin : result.origin = found.origin.or (Import.default? driver found.qualifier)
  depth : found.depth.toNat + extra < UInt32.size → result.depth.toNat = found.depth.toNat + extra
  array : found.depth.toNat + extra < UInt32.size → result.array = (found.array || decide (0 < extra))

theorem toNat_max (a b : UInt32) : (max a b).toNat = max a.toNat b.toNat := by
  by_cases h : a ≤ b
  · have hm : max a b = b := if_pos h
    rw [UInt32.le_iff_toNat_le] at h
    rw [hm, Nat.max_eq_right h]
  · have hm : max a b = a := if_neg h
    rw [UInt32.le_iff_toNat_le] at h
    rw [hm, Nat.max_eq_left (by omega)]

theorem toNat_add_of_lt {a b : UInt32} (h : a.toNat + b.toNat < UInt32.size) :
    (a + b).toNat = a.toNat + b.toNat := by
  rw [UInt32.toNat_add, Nat.mod_eq_of_lt h]

theorem default?_empty (driver : Driver) : Import.default? driver "" = none := by
  cases driver <;> rfl

theorem origin_withDefaultOrigin (driver : Driver) (t : TargetType) :
    (t.withDefaultOrigin (Import.default? driver)).origin =
      t.origin.or (Import.default? driver t.qualifier) := by
  unfold TargetType.withDefaultOrigin
  by_cases h : t.origin = none ∧ t.qualifier ≠ ""
  · simp [h]
  · rw [if_neg h]
    cases ho : t.origin with
    | some i => rfl
    | none =>
      have hq : t.qualifier = "" := by simpa [ho] using h
      simp [hq, default?_empty]

theorem completes_withDefaultOrigin (driver : Driver) (t : TargetType) :
    Completes driver t 0 (t.withDefaultOrigin (Import.default? driver)) where
  base := by simp
  qualifier := by simp
  pointer := by simp
  origin := origin_withDefaultOrigin driver t
  depth := by simp
  array := by simp

/-- One more dimension by `slice`. -/
theorem Completes.slice {driver : Driver} {found result : TargetType}
    (h : Completes driver found 0 result) : Completes driver found 1 result.slice where
  base := h.base
  qualifier := h.qualifier
  pointer := h.pointer
  origin := h.origin
  depth fits := by
    have hd : result.depth.toNat = found.depth.toNat := h.depth (by omega)
    have hone : (1 : UInt32).toNat = 1 := rfl
    rw [TargetType.slice, toNat_add_of_lt (by omega), hd, hone]
  array _ := by simp [TargetType.slice]

theorem Completes.wrapSlice {driver : Driver} {found result : TargetType} (column : Column)
    (h : Completes driver found 0 result) :
    Completes driver found (if column.isSlice ∧ column.isArray = false then 1 else 0)
      (column.wrapSlice result) := by
  unfold Column.wrapSlice
  by_cases hs : column.isSlice ∧ column.isArray = false
  · simpa [hs] using h.slice
  · have hb : (column.isSlice && !column.isArray) = false := by
      simpa using hs
    simpa [hs, hb] using h

/-- The dimensions of a native array; they leave no room for that of a slice parameter. -/
theorem completes_wrapArray (driver : Driver) {column : Column} (t : TargetType)
    (ha : column.isArray = true) :
    Completes driver t (max 1 column.arrayDims.toNat)
      (column.wrapSlice ((column.wrapArray t).withDefaultOrigin (Import.default? driver))) := by
  have hs : ∀ u : TargetType, column.wrapSlice u = u := by simp [Column.wrapSlice, ha]
  have hw : column.wrapArray t = t.withDepth (t.depth + max column.arrayDims 1) := by
    simp [Column.wrapArray, ha]
  have hone : (1 : UInt32).toNat = 1 := rfl
  have hdims : (max column.arrayDims 1).toNat = max 1 column.arrayDims.toNat := by
    rw [toNat_max, hone, Nat.max_comm]
  have hsum : t.depth.toNat + max 1 column.arrayDims.toNat < UInt32.size →
      (t.depth + max column.arrayDims 1).toNat = t.depth.toNat + max 1 column.arrayDims.toNat := by
    intro fits
    rw [toNat_add_of_lt (by rwa [hdims]), hdims]
  rw [hs, hw]
  have h := completes_withDefaultOrigin driver (t.withDepth (t.depth + max column.arrayDims 1))
  refine ⟨h.base, h.qualifier, h.pointer, h.origin, fun fits => ?_, fun fits => ?_⟩
  · rw [TargetType.depth_withDefaultOrigin]
    exact hsum fits
  · have hne : t.depth + max column.arrayDims 1 ≠ 0 := by
      intro h0
      have := hsum fits
      rw [h0] at this
      simp at this
      omega
    have hpos : 0 < max 1 column.arrayDims.toNat := by omega
    simp only [TargetType.array_withDefaultOrigin, TargetType.withDepth, hpos, decide_true, Bool.or_true]
    exact bne_iff_ne.2 hne

/-- What every source but an override goes through: array dimensions, import, slice dimension. -/
theorem completes_element (driver : Driver) (column : Column) (t : TargetType) :
    Completes driver t
      (if column.isArray then max 1 column.arrayDims.toNat else if column.isSlice then 1 else 0)
      (column.wrapSlice ((column.wrapArray t).withDefaultOrigin (Import.default? driver))) := by
  by_cases ha : column.isArray = true
  · simpa [ha] using completes_wrapArray driver t ha
  · have hw : column.wrapArray t = t := by simp [Column.wrapArray, ha]
    simpa [ha, hw] using (completes_withDefaultOrigin driver t).wrapSlice column

/-- An import that is looked up before the dimensions are added is the one that is looked up after. -/
theorem withDefaultOrigin_wrapArray (column : Column) (t : TargetType)
    (lookup : String → Option Import) :
    (column.wrapArray (t.withDefaultOrigin lookup)).withDefaultOrigin lookup =
      (column.wrapArray t).withDefaultOrigin lookup := by
  unfold Column.wrapArray
  by_cases ha : column.isArray = true
  · by_cases h : t.origin = none ∧ t.qualifier ≠ ""
    · simp [TargetType.withDefaultOrigin, TargetType.withDepth, h, ha]
    · simp [TargetType.withDefaultOrigin, TargetType.withDepth, h, ha]
  · simp [ha, TargetType.withDefaultOrigin_idem]

/-! ## Resolution follows the order -/

/-- What resolution hands back for a column whose type comes from a source: that type completed, and the
reports so far with those of the source. -/
structure Outcome (o : Options) (column : Column) (source : TypeSource) (ds : Diagnostics)
    (result : TargetType × Diagnostics) : Prop where
  type : Completes o.driver source.type (source.extraDepth column) result.1
  reports : result.2 = ds ++ source.reports o column

namespace Options

theorem resolve_of_override {o : Options} {column : Column} {rule : Override}
    (h : o.override? column = some rule) (custom : CustomTypes) :
    o.resolve custom column =
      ⟨column.wrapSlice (rule.type.withDefaultOrigin (Import.default? o.driver)), none⟩ := by
  simp [resolve, sourceType, h]

theorem resolve_of_no_override {o : Options} {column : Column} (h : o.override? column = none)
    (custom : CustomTypes) :
    o.resolve custom column =
      ⟨column.wrapSlice ((column.wrapArray (o.typeTable.resolve custom column).type).withDefaultOrigin
          (Import.default? o.driver)), (o.typeTable.resolve custom column).diagnostic⟩ := by
  simp [resolve, sourceType, h]

end Options

theorem TypeTable.resolve_of_gap {table : TypeTable} {column : Column} {gap : TypeGap}
    (h : table.lookup column = gap.mapping) (custom : CustomTypes) :
    table.resolve custom column = table.resolveGap custom gap column := by
  cases gap <;> simp only [TypeTable.resolve, h, TypeGap.mapping]

/-- The placeholder's report, with the engine and the driver of the table as those of the options. -/
theorem report_typeTable {o : Options} (hd : o.typeTable.driver = o.driver) (gap : TypeGap)
    (column : Column) :
    [o.typeTable.report gap column] = (TypeSource.placeholder gap).reports o column := by
  cases gap <;>
    simp [TypeTable.report, TypeTable.gapMessage, TypeSource.reports, TypeSource.reportText,
      engine_typeTable, hd]

namespace TypeSource

/-- The type of the source with the dimensions of a native array, which an override's type does not get. -/
def stacked (column : Column) : TypeSource → TargetType
  | override rule => rule.type
  | table type => column.wrapArray type
  | custom entry => column.wrapArray entry.type
  | placeholder _ => column.wrapArray .untyped

/-- What a column makes of the type of its source, under a driver. -/
def wrapped (driver : Driver) (column : Column) (source : TypeSource) : TargetType :=
  column.wrapSlice ((source.stacked column).withDefaultOrigin (Import.default? driver))

theorem completes_wrapped (driver : Driver) (column : Column) (source : TypeSource) :
    Completes driver source.type (source.extraDepth column) (source.wrapped driver column) := by
  cases source with
  | override rule => exact (completes_withDefaultOrigin driver rule.type).wrapSlice column
  | table type => exact completes_element driver column type
  | custom entry => exact completes_element driver column entry.type
  | placeholder gap => exact completes_element driver column .untyped

end TypeSource

/-- Resolution in full, by the source that answers. -/
theorem Answers.resolve_eq {o : Options} {custom : CustomTypes} {column : Column} {source : TypeSource}
    (h : Answers o custom column source) (hd : o.typeTable.driver = o.driver) :
    o.resolve custom column = ⟨source.wrapped o.driver column, (source.reports o column).head?⟩ := by
  cases h with
  | override ho =>
    rw [Options.resolve_of_override ho]
    rfl
  | @table type ho ht =>
    -- The table looks the import up itself, with its own driver.
    have hr : o.typeTable.resolve custom column =
        ⟨type.withDefaultOrigin (Import.default? o.driver), none⟩ := by
      simp only [TypeTable.resolve, ht, hd]
    rw [Options.resolve_of_no_override ho, hr, withDefaultOrigin_wrapArray]
    rfl
  | custom ho hg hc =>
    rw [Options.resolve_of_no_override ho, TypeTable.resolve_of_gap hg, TypeTable.resolveGap, hc]
    rfl
  | placeholder ho hg hc =>
    rw [Options.resolve_of_no_override ho, TypeTable.resolve_of_gap hg, TypeTable.resolveGap, hc,
      ← report_typeTable hd]
    rfl

theorem Answers.outcome {o : Options} {custom : CustomTypes} {column : Column} {source : TypeSource}
    (h : Answers o custom column source) (hd : o.typeTable.driver = o.driver) (ds : Diagnostics) :
    Outcome o column source ds (o.resolveOnto custom ds column) := by
  rw [Options.resolveOnto_eq, h.resolve_eq hd]
  refine ⟨source.completes_wrapped o.driver column, ?_⟩
  -- A source has one report at most.
  cases source with
  | placeholder gap => rfl
  | override rule => rfl
  | table type => rfl
  | custom entry => rfl

/-- **One order of sources.** Under accepted options exactly one source answers for a column; its type is
completed with what the column and the driver add, and only the placeholder adds a report. -/
theorem resolveOnto_follows_sources {engine : Engine} {fallbackSchema : String} {run project : Json}
    {o : Options} (accepted : Options.ofDocumentsIn lib engine fallbackSchema run project = .ok o)
    (c : Catalog) (column : Column) (ds : Diagnostics) :
    ∃ source, (∀ s, Answers o (.ofCatalog o c) column s ↔ s = source) ∧
      Outcome o column source ds (o.resolveOnto (.ofCatalog o c) ds column) := by
  obtain ⟨d, g, -, -, hs, -⟩ := Options.ofDocumentsIn_eq_ok_iff.1 accepted
  obtain ⟨source, ha⟩ := exists_answers o (.ofCatalog o c) column
  refine ⟨source, fun s => ⟨fun h => h.unique ha, ?_⟩, ha.outcome (driver_typeTable hs) ds⟩
  rintro rfl
  exact ha

/-- A two-dimensional array of a type that the standard driver cannot scan. -/
def tagsColumn : Column where
  name := "tags"
  isArray := true
  arrayDims := 2
  type := { name := "hstore" }

/-- No source has the type of this column, so it is an array of placeholders with a report. -/
theorem resolveOnto_follows_sources_tags :
    Options.ofDocumentsIn .standard .postgresql "public" (.object [("package", .string "db")]) .null =
        .ok (.new .postgresql "db") ∧
      (∃ source, (∀ s, Answers (.new .postgresql "db") (.ofCatalog (.new .postgresql "db") {})
          tagsColumn s ↔ s = source) ∧
        Outcome (.new .postgresql "db") tagsColumn source []
          ((Options.new .postgresql "db").resolveOnto (.ofCatalog (.new .postgresql "db") {}) []
            tagsColumn)) ∧
      Answers (.new .postgresql "db") (.ofCatalog (.new .postgresql "db") {}) tagsColumn
        (.placeholder .unsupportedForDriver) := by
  have accepted : Options.ofDocumentsIn .standard .postgresql "public" (.object [("package", .string "db")]) .null =
      .ok (.new .postgresql "db") := rfl
  exact ⟨accepted, resolveOnto_follows_sources accepted {} tagsColumn [], .placeholder rfl rfl rfl⟩

end EntityModel
