import EntityModel.Proofs.Collector
import EntityModel.Proofs.StableSort

/-!
# Engine internals

The tables of a schema of engine internals are passed over, by the name of the schema that lists them. A table
may name a schema of its own, which it then keeps, and which is not looked at. So an entity lies in engine
internals exactly if its table is a stray one, listed elsewhere under a name from there
(`Catalog.strayTables`): these and no others come through (`ofRequest_internal_tables`).
-/

namespace EntityModel

variable {lib : Libraries}

namespace Identifier

/-- Whether an object is named as one of a schema of engine internals. -/
def isInternal (i : Identifier) : Bool := Schema.isInternalName i.schema

end Identifier

/-- The tables that are named as engine internals, but listed by another schema. -/
def Catalog.strayTables (c : Catalog) : List Identifier :=
  c.userSchemas.flatMap fun s => (s.tables.map (·.rel)).filter (·.isInternal)

/-! ## Names of tables -/

theorem isInternal_of_mem_userSchemas {c : Catalog} {s : Schema} (h : s ∈ c.userSchemas) :
    s.isInternal = false := by
  simpa using (List.mem_filter.1 h).2

/-- A table takes its schema's name only if it has none, and then it is not internal. -/
theorem rel_qualify_of_user {s : Schema} (h : s.isInternal = false) (t : Table) :
    (t.qualify s.name).rel.isInternal = t.rel.isInternal ∧
      (t.rel.isInternal = true → (t.qualify s.name).rel = t.rel) := by
  by_cases hs : t.rel.schema = ""
  · have hrel : t.rel.isInternal = false := by
      rw [Identifier.isInternal, hs]
      decide
    have hqualified : (t.qualify s.name).rel.isInternal = s.isInternal := by
      simp [Table.qualify, Identifier.schemaOr, Identifier.isInternal, Schema.isInternal, hs]
    rw [hqualified, h, hrel]
    exact ⟨rfl, nofun⟩
  · have hqualified : (t.qualify s.name).rel = t.rel := by
      simp [Table.qualify, Identifier.schemaOr, hs]
    rw [hqualified]
    exact ⟨rfl, fun _ => rfl⟩

theorem filter_rel_qualify {s : Schema} (h : s.isInternal = false) (tables : List Table) :
    (tables.map fun t => (t.qualify s.name).rel).filter (·.isInternal) =
      (tables.map (·.rel)).filter (·.isInternal) := by
  induction tables with
  | nil => rfl
  | cons t tables ih =>
    obtain ⟨hinternal, hrel⟩ := rel_qualify_of_user h t
    rw [List.map_cons, List.map_cons, List.filter_cons, List.filter_cons, hinternal, ih]
    split
    · next ht => rw [hrel ht]
    · rfl

theorem filter_userTables (c : Catalog) :
    (c.userTables.map (·.rel)).filter (·.isInternal) = c.strayTables := by
  rw [Catalog.userTables, List.map_flatMap, List.filter_flatMap, Catalog.strayTables]
  refine List.flatMap_congr fun s hs => ?_
  rw [List.map_map]
  exact filter_rel_qualify (isInternal_of_mem_userSchemas hs) s.tables

/-- The entities are those of the tables, in another order. -/
theorem tables_perm_userTables (o : Options) (c : Catalog) :
    ((Generation.ofCatalog o c).entities.map (·.table)).Perm (c.userTables.map (·.rel)) := by
  rw [Generation.ofCatalog_eq]
  refine ((Generation.sortEntities_perm _).map _).trans (.of_eq ?_)
  rw [List.map_map]
  rfl

/-! ## Entities of engine internals -/

theorem strayTables_eq_nil_iff {c : Catalog} :
    c.strayTables = [] ↔
      ∀ s ∈ c.schemas, s.isInternal = false → ∀ t ∈ s.tables, t.rel.isInternal = false := by
  simp [Catalog.strayTables, Catalog.userSchemas, List.flatMap_eq_nil_iff, List.filter_eq_nil_iff]

/-- **Only stray tables come through.** The entities of an accepted request that lie in engine internals are
those of the stray tables of its catalog. So there are none exactly if no schema but those of engine internals
lists a table under a name from there. -/
theorem ofRequest_internal_tables {r : Request} {o : Options} (accepted : Options.ofRequest lib r = .ok o) :
    ∃ g, Generation.ofRequest lib r = .ok g ∧
      ((g.entities.map (·.table)).filter (·.isInternal)).Perm r.catalog.strayTables ∧
      ((∀ e ∈ g.entities, e.table.isInternal = false) ↔
        ∀ s ∈ r.catalog.schemas, s.isInternal = false → ∀ t ∈ s.tables, t.rel.isInternal = false) := by
  have hperm : (((Generation.ofCatalog o r.catalog).entities.map (·.table)).filter
      (·.isInternal)).Perm r.catalog.strayTables := by
    rw [← filter_userTables]
    exact (tables_perm_userTables o r.catalog).filter _
  refine ⟨_, Generation.ofRequest_of_options accepted, hperm, ?_⟩
  have hnone : (∀ e ∈ (Generation.ofCatalog o r.catalog).entities, e.table.isInternal = false) ↔
      ((Generation.ofCatalog o r.catalog).entities.map (·.table)).filter (·.isInternal) = [] := by
    simp [List.filter_eq_nil_iff]
  rw [hnone, ← strayTables_eq_nil_iff]
  exact ⟨fun h => (h ▸ hperm).nil_eq.symm, fun h => (h ▸ hperm).eq_nil⟩

/-- A catalog with a table of engine internals in its own schema, and one in a schema without a name. -/
def typesCatalog : Catalog where
  schemas := [{ name := "pg_catalog", tables := [{ rel := { name := "pg_class" } }] },
    { tables := [{ rel := { schema := "pg_catalog", name := "pg_type" } }] }]

/-- A request for the entities of this catalog. -/
def typesRequest : Request where
  engineName := "postgresql"
  catalog := typesCatalog
  options := .object [("package", .string "fixtures")]

/-- The second table is a stray one, and has an entity. -/
theorem ofRequest_internal_tables_types :
    typesCatalog.strayTables = [{ schema := "pg_catalog", name := "pg_type" }] ∧
      ∃ g, Generation.ofRequest .standard typesRequest = .ok g ∧
        ((g.entities.map (·.table)).filter (·.isInternal)).Perm typesCatalog.strayTables := by
  have accepted : Options.ofRequest .standard typesRequest = .ok (.new .postgresql "fixtures") := rfl
  obtain ⟨g, hg, hperm, -⟩ := ofRequest_internal_tables accepted
  exact ⟨rfl, g, hg, hperm⟩

/-- An entity lies in engine internals although its request is accepted. -/
theorem exists_entity_of_internal_schema :
    Options.ofRequest .standard typesRequest = .ok (.new .postgresql "fixtures") ∧
      ∃ g, Generation.ofRequest .standard typesRequest = .ok g ∧ ∃ e ∈ g.entities, e.table.schema = "pg_catalog" := by
  have accepted : Options.ofRequest .standard typesRequest = .ok (.new .postgresql "fixtures") := rfl
  refine ⟨accepted, _, Generation.ofRequest_of_options accepted, ?_⟩
  have hperm := tables_perm_userTables (.new .postgresql "fixtures") typesCatalog
  have hmem : ({ schema := "pg_catalog", name := "pg_type" } : Identifier) ∈
      typesCatalog.userTables.map (·.rel) := by decide
  obtain ⟨e, he, htable⟩ := List.mem_map.1 (hperm.mem_iff.2 hmem)
  exact ⟨e, he, by rw [htable]⟩

end EntityModel
