import EntityModel.Generation.Basic
import EntityModel.Proofs.Settlement

/-!
# Collecting reports

All columns of a run share one collector of reports. `Collects` says of a step that it hands back the same
value whatever has been collected before, and adds the same reports at the end; going through a list with
such steps is a map for the values and a concatenation for the reports (`Collects.mapM`). With this the
shared collector goes away: an entity is a function of its table (`entityOf`), its reports are another
(`reportsOf`), and a generation is made of these (`ofCatalog_eq`).
-/

namespace EntityModel

variable {lib : Libraries}

/-- A step that hands back `value` and adds `reports` to those collected so far. -/
def Collects {α : Type} (step : StateM Diagnostics α) (value : α) (reports : Diagnostics) : Prop :=
  ∀ ds, step.run ds = (value, ds ++ reports)

namespace Collects

theorem pure {α : Type} (value : α) : Collects (Pure.pure value) value [] := by
  intro ds
  show (value, ds) = (value, ds ++ [])
  rw [List.append_nil]

theorem bind {α β : Type} {step : StateM Diagnostics α} {next : α → StateM Diagnostics β} {a : α} {b : β}
    {reports later : Diagnostics} (h : Collects step a reports) (hnext : Collects (next a) b later) :
    Collects (step >>= next) b (reports ++ later) := by
  intro ds
  show (next (step.run ds).1).run (step.run ds).2 = (b, ds ++ (reports ++ later))
  rw [h ds, ← List.append_assoc]
  exact hnext (ds ++ reports)

theorem map {α β : Type} {step : StateM Diagnostics α} {a : α} {reports : Diagnostics}
    (h : Collects step a reports) (f : α → β) :
    Collects (step >>= fun x => Pure.pure (f x)) (f a) reports := by
  rw [← List.append_nil reports]
  exact h.bind (Collects.pure (f a))

/-- Going through a list: what one step does, for each item in turn. -/
theorem mapM {α β : Type} {step : α → StateM Diagnostics β} {value : α → β} {reports : α → Diagnostics}
    (h : ∀ x, Collects (step x) (value x) (reports x)) (xs : List α) :
    Collects (xs.mapM step) (xs.map value) (xs.flatMap reports) := by
  induction xs with
  | nil => exact Collects.pure []
  | cons x xs ih =>
    rw [List.mapM_cons, List.map_cons, List.flatMap_cons]
    exact (h x).bind (ih.map (value x :: ·))

end Collects

namespace Options

variable (o : Options) (custom : CustomTypes)

/-- The reports that a column adds, at most one. -/
def columnReports (column : Column) : Diagnostics := (o.resolve custom column).diagnostic.toList

/-- The field of a column, as a function of the column. -/
def fieldOf (key : String) (column : Column) : Field where
  name := o.identifier column.name
  type := (o.resolve custom column).type
  isPrimaryKey := column.name == key
  column

/-- The entity of a qualified table, as a function of the table. -/
def entityOf (t : Table) : Entity where
  table := t.rel
  tableName := o.flatName t.rel.schema t.rel.name
  type := modelType o.modelImport (o.identifier (o.entityName (o.flatName t.rel.schema t.rel.name)))
  fields := t.columns.map (o.fieldOf custom (o.primaryKeyOf t.rel))
  comment := t.comment

/-- The reports on the columns of a table, in their order. -/
def reportsOf (t : Table) : Diagnostics := t.columns.flatMap (o.columnReports custom)

theorem collects_field (key : String) (column : Column) :
    Collects (o.field custom key column) (o.fieldOf custom key column) (o.columnReports custom column) := by
  have htype : Collects (modifyGet fun ds => o.resolveOnto custom ds column)
      (o.resolve custom column).type (o.columnReports custom column) := by
    intro ds
    exact o.resolveOnto_eq custom ds column
  exact htype.map _

theorem collects_entity (t : Table) :
    Collects (o.entity custom t) (o.entityOf custom t) (o.reportsOf custom t) :=
  (Collects.mapM (o.collects_field custom (o.primaryKeyOf t.rel)) t.columns).map _

theorem map_column_entityOf (t : Table) : (o.entityOf custom t).fields.map (·.column) = t.columns := by
  rw [entityOf, List.map_map]
  exact List.map_id t.columns

end Options

/-- A generation without the collector. -/
theorem Generation.ofCatalog_eq (o : Options) (c : Catalog) :
    Generation.ofCatalog o c =
      { package := o.package
        driver := o.driver
        entities := sortEntities (c.userTables.map (o.entityOf (.ofCatalog o c)))
        diagnostics := c.userTables.flatMap (o.reportsOf (.ofCatalog o c))
        defaultValues := o.defaultValues } := by
  have h := Collects.mapM (o.collects_entity (.ofCatalog o c)) c.userTables []
  simp only [Generation.ofCatalog, h, List.nil_append]

/-- Nothing is refused once the options are accepted. -/
theorem Generation.ofRequest_of_options {r : Request} {o : Options}
    (accepted : Options.ofRequest lib r = .ok o) :
    Generation.ofRequest lib r = .ok (.ofCatalog o r.catalog) :=
  bind_eq_ok_iff.2 ⟨o, accepted, rfl⟩

end EntityModel
