import EntityModel.Proofs.CatalogParts
import EntityModel.Proofs.Collector
import Mathlib.Data.List.Forall2

/-!
# Owners written out

A catalog may leave the owner of a thing to the place where it stands: a table without a schema is one of the
schema that lists it, and a column without a table one of the table that lists it. `Catalog.complete` writes
all of these owners out, and `Catalog.Completed` says of a catalog that some of them have been. However many they
are, every table that becomes an entity is the same one as before (`userTables_eq_of_completed`), so entities,
overrides, primary keys and reports cannot tell the difference (`ofRequest_of_completed`).
-/

namespace EntityModel

variable {lib : Libraries}

/-! ## Owners -/

/-- The identifier of a table that a schema lists. -/
def Table.ownerIn (schema : String) (t : Table) : Identifier :=
  if t.rel.schema = "" then { t.rel with schema } else t.rel

/-- A column with its table written out. -/
def Column.complete (owner : Identifier) (column : Column) : Column :=
  match column.table with
  | some _ => column
  | none => { column with table := some owner }

/-- A table with its schema and the tables of its columns written out. -/
def Table.complete (schema : String) (t : Table) : Table :=
  { t with rel := t.ownerIn schema, columns := t.columns.map (Column.complete (t.ownerIn schema)) }

/-- A schema with the owners of its tables and columns written out. -/
def Schema.complete (s : Schema) : Schema := { s with tables := s.tables.map (Table.complete s.name) }

/-- A catalog with all owners written out. -/
def Catalog.complete (c : Catalog) : Catalog := { c with schemas := c.schemas.map Schema.complete }

/-- A column as it was, or with its table written out. -/
def Column.Completed (owner : Identifier) (column column' : Column) : Prop :=
  column' = column ∨ column' = column.complete owner

/-- A table some of whose owners have been written out, and perhaps its own. -/
structure Table.Completed (schema : String) (t t' : Table) : Prop where
  rel : t'.rel = t.rel ∨ t'.rel = t.ownerIn schema
  columns : List.Forall₂ (Column.Completed (t.ownerIn schema)) t.columns t'.columns
  comment : t'.comment = t.comment

/-- A schema with some owners written out. -/
structure Schema.Completed (s s' : Schema) : Prop where
  name : s'.name = s.name
  comment : s'.comment = s.comment
  tables : List.Forall₂ (Table.Completed s.name) s.tables s'.tables
  enums : s'.enums = s.enums
  compositeTypes : s'.compositeTypes = s.compositeTypes

/-- A catalog with some owners written out. -/
structure Catalog.Completed (c c' : Catalog) : Prop where
  name : c'.name = c.name
  comment : c'.comment = c.comment
  defaultSchema : c'.defaultSchema = c.defaultSchema
  schemas : List.Forall₂ Schema.Completed c.schemas c'.schemas

/-! ## Writing out all owners -/

theorem Table.completed_complete (schema : String) (t : Table) : t.Completed schema (t.complete schema) where
  rel := .inr rfl
  columns := by
    show List.Forall₂ _ t.columns (t.columns.map _)
    rw [List.forall₂_map_right_iff, List.forall₂_same]
    exact fun _ _ => .inr rfl
  comment := rfl

theorem Schema.completed_complete (s : Schema) : s.Completed s.complete where
  name := rfl
  comment := rfl
  tables := by
    show List.Forall₂ _ s.tables (s.tables.map _)
    rw [List.forall₂_map_right_iff, List.forall₂_same]
    exact fun t _ => t.completed_complete s.name
  enums := rfl
  compositeTypes := rfl

theorem Catalog.completed_complete (c : Catalog) : c.Completed c.complete where
  name := rfl
  comment := rfl
  defaultSchema := rfl
  schemas := by
    show List.Forall₂ _ c.schemas (c.schemas.map _)
    rw [List.forall₂_map_right_iff, List.forall₂_same]
    exact fun s _ => s.completed_complete

/-! ## What a run makes of owners -/

/-- A run gives a table the owner that could have been written out. -/
theorem rel_qualify (schema : String) (t : Table) : (t.qualify schema).rel = t.ownerIn schema := by
  by_cases h : t.rel.schema = ""
  · simp [Table.qualify, Table.ownerIn, Identifier.schemaOr, h]
  · simp [Table.qualify, Table.ownerIn, Identifier.schemaOr, h]

/-- A run gives a column the table that could have been written out. -/
theorem columns_qualify (schema : String) (t : Table) :
    (t.qualify schema).columns = t.columns.map fun column =>
      { column with table := some (column.table.getD (t.ownerIn schema)) } := by
  rw [← rel_qualify]
  rfl

theorem ownerIn_of_completed {schema : String} {t t' : Table} (h : t.Completed schema t') :
    t'.ownerIn schema = t.ownerIn schema := by
  unfold Table.ownerIn
  rcases h.rel with hrel | hrel
  · rw [hrel]
  · rw [hrel, Table.ownerIn]
    by_cases hs : t.rel.schema = ""
    · -- The schema that lists the table may have no name of its own, and then nothing is written out.
      simp [hs]
    · simp [hs]

theorem table_of_completed {owner : Identifier} {column column' : Column}
    (h : column.Completed owner column') :
    { column' with table := some (column'.table.getD owner) } =
      { column with table := some (column.table.getD owner) } := by
  rcases h with rfl | rfl
  · rfl
  · cases ht : column.table with
    | some table => simp [Column.complete, ht]
    | none => simp [Column.complete, ht]

/-- Items that a function cannot tell apart have the same images. -/
theorem map_eq_of_forall₂ {α β : Type} {f : α → β} {xs ys : List α}
    (h : List.Forall₂ (fun x y => f y = f x) xs ys) : ys.map f = xs.map f := by
  induction h with
  | nil => rfl
  | cons hxy _ ih => rw [List.map_cons, List.map_cons, hxy, ih]

theorem qualify_of_completed {schema : String} {t t' : Table} (h : t.Completed schema t') :
    t'.qualify schema = t.qualify schema := by
  have hrel : (t'.qualify schema).rel = (t.qualify schema).rel := by
    rw [rel_qualify, rel_qualify, ownerIn_of_completed h]
  have hcolumns : (t'.qualify schema).columns = (t.qualify schema).columns := by
    rw [columns_qualify, columns_qualify, ownerIn_of_completed h]
    exact map_eq_of_forall₂ (h.columns.imp fun _ _ hc => table_of_completed hc)
  have hcomment : (t'.qualify schema).comment = (t.qualify schema).comment := h.comment
  cases ht' : t'.qualify schema with
  | mk rel' columns' comment' =>
    cases ht : t.qualify schema with
    | mk rel columns comment =>
      rw [ht', ht] at hrel hcolumns hcomment
      rw [Table.mk.injEq]
      exact ⟨hrel, hcolumns, hcomment⟩

/-! ## Schemas and catalogs -/

theorem flatMap_eq_of_forall₂ {α β : Type} {f : α → List β} {xs ys : List α}
    (h : List.Forall₂ (fun x y => f y = f x) xs ys) : ys.flatMap f = xs.flatMap f := by
  rw [List.flatMap_def, List.flatMap_def, map_eq_of_forall₂ h]

theorem Schema.Completed.entityTables_eq {s s' : Schema} (h : s.Completed s') :
    s'.entityTables = s.entityTables := by
  have htables : s'.tables.map (·.qualify s.name) = s.tables.map (·.qualify s.name) :=
    map_eq_of_forall₂ (h.tables.imp fun _ _ ht => qualify_of_completed ht)
  unfold Schema.entityTables Schema.isInternal
  rw [h.name, htables]

theorem Schema.Completed.entries_eq {s s' : Schema} (h : s.Completed s') (o : Options) :
    s'.entries o = s.entries o := by
  unfold Schema.entries Schema.isInternal Schema.customTypes
  rw [h.name, h.enums, h.compositeTypes]

theorem userTables_eq_of_completed {c c' : Catalog} (h : c.Completed c') : c'.userTables = c.userTables := by
  rw [userTables_eq, userTables_eq]
  exact flatMap_eq_of_forall₂ (h.schemas.imp fun _ _ hs => hs.entityTables_eq)

theorem customTypes_eq_of_completed {c c' : Catalog} (h : c.Completed c') (o : Options) :
    CustomTypes.ofCatalog o c' = CustomTypes.ofCatalog o c := by
  have hentries : (CustomTypes.ofCatalog o c').entries = (CustomTypes.ofCatalog o c).entries := by
    rw [entries_ofCatalog, entries_ofCatalog]
    exact flatMap_eq_of_forall₂ (h.schemas.imp fun _ _ hs => hs.entries_eq o)
  exact congrArg (CustomTypes.mk · o.defaultSchema) hentries

theorem ofCatalog_of_completed {c c' : Catalog} (h : c.Completed c') (o : Options) :
    Generation.ofCatalog o c' = Generation.ofCatalog o c := by
  rw [Generation.ofCatalog_eq, Generation.ofCatalog_eq, userTables_eq_of_completed h,
    customTypes_eq_of_completed h]

/-- **Owners need not be written out.** A request has the same answer with all owners of its catalog written
out, and with any of them. -/
theorem ofRequest_of_completed (r : Request) :
    Generation.ofRequest lib { r with catalog := r.catalog.complete } = Generation.ofRequest lib r ∧
      ∀ c, r.catalog.Completed c →
        Generation.ofRequest lib { r with catalog := c } = Generation.ofRequest lib r := by
  have some_owners : ∀ c, r.catalog.Completed c →
      Generation.ofRequest lib { r with catalog := c } = Generation.ofRequest lib r := by
    intro c h
    have hoptions : Options.ofRequest lib { r with catalog := c } = Options.ofRequest lib r :=
      Options.ofRequest_withCatalog h.defaultSchema
    have hcatalog (o : Options) : Generation.ofCatalog o c = Generation.ofCatalog o r.catalog :=
      ofCatalog_of_completed h o
    unfold Generation.ofRequest
    simp only [hoptions, hcatalog]
  exact ⟨some_owners _ r.catalog.completed_complete, some_owners⟩

/-- The notes of a schema, with a text and a column of a type that nothing declares. -/
def notesTable : Table where
  rel := { name := "notes" }
  columns := [{ name := "body", type := { name := "text" } },
    { name := "shape", type := { name := "polygon3d" } }]

/-- A catalog that leaves all owners to their places. -/
def notesCatalog : Catalog where
  schemas := [{ name := "audit", tables := [notesTable] }]

/-- The same table with the owner of its first column written out, and nothing else. -/
def partlyOwnedTable : Table where
  rel := { name := "notes" }
  columns := [{ name := "body", type := { name := "text" }, table := some { schema := "audit", name := "notes" } },
    { name := "shape", type := { name := "polygon3d" } }]

/-- The catalog with this table. -/
def partlyOwnedCatalog : Catalog where
  schemas := [{ name := "audit", tables := [partlyOwnedTable] }]

/-- A request with a type for the texts of these notes. -/
def notesRequest : Request where
  engineName := "postgresql"
  catalog := notesCatalog
  options := .object [("package", .string "db"),
    ("overrides", .array [.object [("column", .string "audit.notes.body"),
      ("go_type", .string "example.com/text.Body")]])]

/-- The override and the report find the owner, wherever it stands. -/
theorem ofRequest_of_completed_notes :
    notesCatalog.Completed partlyOwnedCatalog ∧
      Generation.ofRequest .standard { notesRequest with catalog := partlyOwnedCatalog } =
        Generation.ofRequest .standard notesRequest ∧
      Generation.ofRequest .standard { notesRequest with catalog := notesCatalog.complete } =
        Generation.ofRequest .standard notesRequest ∧
      ∃ g, Generation.ofRequest .standard notesRequest = .ok g ∧
        (g.entities.flatMap (·.fields)).map (·.type.display) = ["text.Body", "interface\x7b\x7d"] ∧
        g.diagnostics.map (·.table) = ["audit.notes"] := by
  obtain ⟨whole, part⟩ := ofRequest_of_completed notesRequest
  have table : notesTable.Completed "audit" partlyOwnedTable :=
    ⟨.inl rfl, .cons (.inr rfl) (.cons (.inl rfl) .nil), rfl⟩
  have completed : notesCatalog.Completed partlyOwnedCatalog :=
    ⟨rfl, rfl, rfl, .cons ⟨rfl, rfl, .cons table .nil, rfl, rfl⟩ .nil⟩
  exact ⟨completed, part _ completed, whole, _, rfl, by decide +kernel, by decide +kernel⟩

end EntityModel
