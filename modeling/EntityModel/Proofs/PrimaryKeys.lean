import EntityModel.Proofs.BoundQualifier
import EntityModel.Proofs.OverrideOrder
import EntityModel.Proofs.StableSort
import Mathlib.Data.List.Find

/-!
# Primary keys

The entries of an options document declare the keys of tables, by the name of the table alone or with that of its
schema, and the first that is meant for a table counts; a table that none is meant for has its key in `id`
(`KeyColumn`). This is about the entries as they stand in the document; that the settled options give the same
column for a table is `keyColumn_primaryKeyOf`.

Main statement: in the entity of a table exactly the fields of that column are marked as the key, the first of them
is the primary key, and without one there is none, whatever other columns are called (`ofRequest_primary_keys`).
-/

namespace EntityModel

variable {lib : Libraries}

open Text

/-! ## The key column of a table -/

/-- The parts of a dotted text. -/
def dottedParts (s : String) : List String := (splitOn '.' s.toList).map String.ofList

/-- An entry declares a column as the key of a table: its parts are the table and the column, with the schema of
the table in front if wanted. An unqualified table lies in the default schema. -/
def DeclaresKey (defaultSchema : String) (table : Identifier) (column entry : String) : Prop :=
  dottedParts entry = [table.name, column] ∨
    dottedParts entry = [table.schemaOr defaultSchema, table.name, column]

/-- The key column of a table under some entries: that of the first entry for the table, or `id`. -/
inductive KeyColumn (defaultSchema : String) (table : Identifier) (entries : List String) : String → Prop where
  | declared {entry column : String}
      (first : IsFirst (fun e => ∃ k, DeclaresKey defaultSchema table k e) entries entry)
      (names : DeclaresKey defaultSchema table column entry) :
    KeyColumn defaultSchema table entries column
  | default (none : ∀ e ∈ entries, ∀ k, ¬ DeclaresKey defaultSchema table k e) :
    KeyColumn defaultSchema table entries "id"

section

variable {defaultSchema : String} {table : Identifier}

theorem DeclaresKey.unique {column column' entry : String} (h : DeclaresKey defaultSchema table column entry)
    (h' : DeclaresKey defaultSchema table column' entry) : column = column' := by
  rcases h with h | h <;> rcases h' with h' | h' <;> simp_all

theorem KeyColumn.unique {entries : List String} {column column' : String}
    (h : KeyColumn defaultSchema table entries column) (h' : KeyColumn defaultSchema table entries column') :
    column = column' := by
  classical
  cases h with
  | declared first names =>
    cases h' with
    | declared first' names' =>
      have heq := (isFirst_iff_find?.1 first).symm.trans (isFirst_iff_find?.1 first')
      cases heq
      exact names.unique names'
    | default none =>
      obtain ⟨_, _, rfl, -, -⟩ := first
      exact absurd names (none _ (by simp) _)
  | default none =>
    cases h' with
    | declared first' names' =>
      obtain ⟨_, _, rfl, -, -⟩ := first'
      exact absurd names' (none _ (by simp) _)
    | default => rfl

/-- What an entry says is what it is read as. -/
theorem declaresKey_iff {entry : String} {key : PrimaryKey} (h : PrimaryKey.ofEntry entry = .ok key)
    (column : String) :
    DeclaresKey defaultSchema table column entry ↔ key.isFor table defaultSchema = true ∧ key.column = column := by
  unfold PrimaryKey.ofEntry at h
  unfold DeclaresKey dottedParts
  dsimp only at h
  split at h
  · cases h
  split at h
  · next hparts =>
    cases h
    rw [hparts]
    simp [PrimaryKey.isFor]
  · next hparts =>
    cases h
    rw [hparts]
    simp [PrimaryKey.isFor, and_assoc, and_left_comm]
  · cases h

end

/-- The options that are settled from entries give each table the column that the entries give it. -/
theorem keyColumn_primaryKeyOf {o : Options} {entries : List String}
    (h : List.Forall₂ (fun e key => PrimaryKey.ofEntry e = .ok key) entries o.primaryKeys)
    (table : Identifier) : KeyColumn o.defaultSchema table entries (o.primaryKeyOf table) := by
  classical
  have hrel : Option.Rel (fun e key => PrimaryKey.ofEntry e = .ok key)
      (entries.find? fun e => decide (∃ k, DeclaresKey o.defaultSchema table k e))
      (o.primaryKeys.find? fun key => key.isFor table o.defaultSchema) := by
    refine rel_find? (fun e key he => ?_) h
    simp [declaresKey_iff he]
  unfold Options.primaryKeyOf
  generalize hentry : entries.find? (fun e => decide (∃ k, DeclaresKey o.defaultSchema table k e)) = entry? at hrel
  generalize hkey : o.primaryKeys.find? (fun key => key.isFor table o.defaultSchema) = key? at hrel ⊢
  cases hrel with
  | some he =>
    refine .declared (isFirst_iff_find?.2 hentry) ((declaresKey_iff he _).2 ⟨?_, rfl⟩)
    simpa using List.find?_some hkey
  | none =>
    refine .default fun e hm k hk => ?_
    exact List.find?_eq_none.1 hentry e hm (decide_eq_true ⟨k, hk⟩)

/-! ## The fields of the key -/

/-- The key of an entity lies in a column: its fields, and no others, are marked, and the first of them is the
primary key. Fixtures are generated exactly if there is one. -/
structure Entity.KeyedBy (e : Entity) (column : String) : Prop where
  marked : ∀ f ∈ e.fields, f.isPrimaryKey = true ↔ f.dbName = column
  hasPrimaryKey : e.hasPrimaryKey = true ↔ ∃ f ∈ e.fields, f.dbName = column
  isRenderable : e.isRenderable = true ↔ ∃ f ∈ e.fields, f.dbName = column
  isSome : e.primaryKey?.isSome = true ↔ ∃ f ∈ e.fields, f.dbName = column
  first : ∀ key, e.primaryKey? = some key ↔ IsFirst (fun f => f.dbName = column) e.fields key

/-- All of it follows from how the fields are marked. -/
theorem Entity.keyedBy_of_marked {e : Entity} {column : String}
    (marked : ∀ f ∈ e.fields, f.isPrimaryKey = true ↔ f.dbName = column) : e.KeyedBy column := by
  have hany : e.hasPrimaryKey = true ↔ ∃ f ∈ e.fields, f.dbName = column := by
    rw [hasPrimaryKey, List.any_eq_true]
    exact exists_congr fun f => and_congr_right fun hf => marked f hf
  have hfind : e.primaryKey? = e.fields.find? fun f => decide (f.dbName = column) :=
    List.find?_congr fun f hf => Bool.eq_iff_iff.2 ((marked f hf).trans decide_eq_true_iff.symm)
  refine ⟨marked, hany, hany, ?_, fun key => ?_⟩
  · rw [primaryKey?, List.find?_isSome]
    exact exists_congr fun f => and_congr_right fun hf => marked f hf
  · rw [hfind, isFirst_iff_find?]

theorem keyedBy_entityOf (o : Options) (custom : CustomTypes) (t : Table) :
    (o.entityOf custom t).KeyedBy (o.primaryKeyOf t.rel) := by
  refine Entity.keyedBy_of_marked fun f hf => ?_
  obtain ⟨column, -, rfl⟩ := List.mem_map.1 hf
  exact beq_iff_eq

theorem dbNames_entityOf (o : Options) (custom : CustomTypes) (t : Table) :
    (o.entityOf custom t).fields.map (·.dbName) = t.columns.map (·.name) := by
  rw [← o.map_column_entityOf custom t, List.map_map]
  rfl

/-- **Primary keys.** Every entity of an accepted request is that of a table of the catalog, and has its key in the
column that the entries of the options document give to this table. -/
theorem ofRequest_primary_keys {r : Request} {o : Options} (accepted : Options.ofRequest lib r = .ok o) :
    ∃ d g, Options.readRun r.options = .ok d ∧ Generation.ofRequest lib r = .ok g ∧
      ∀ e ∈ g.entities,
        (∃ t ∈ r.catalog.userTables, e.table = t.rel ∧ e.fields.map (·.dbName) = t.columns.map (·.name)) ∧
        ∃ column, (∀ k, KeyColumn o.defaultSchema e.table d.primaryKeys k ↔ k = column) ∧ e.KeyedBy column := by
  obtain ⟨engine, -, settled⟩ := bind_eq_ok_iff.1 accepted
  obtain ⟨d, g, hd, -, hs, -⟩ := Options.ofDocumentsIn_eq_ok_iff.1 settled
  refine ⟨d, _, hd, Generation.ofRequest_of_options accepted, fun e he => ?_⟩
  obtain ⟨t, ht, rfl⟩ := exists_table_of_mem_entities he
  refine ⟨⟨t, ht, rfl, dbNames_entityOf o _ t⟩, o.primaryKeyOf t.rel, fun k => ?_, keyedBy_entityOf o _ t⟩
  have hkey := keyColumn_primaryKeyOf hs.primaryKeys t.rel
  constructor
  · intro hk
    exact hk.unique hkey
  · rintro rfl
    exact hkey

/-- Parcels with a code and an identifier, in a schema without a name. -/
def parcelsCatalog : Catalog where
  schemas := [{ tables := [{ rel := { name := "parcels" }, columns := [{ name := "id" }, { name := "code" }] }] }]

/-- A request in which the code is the key of the parcels. An entry for another schema comes first, and one for the
parcels of any schema too late. -/
def parcelsRequest : Request where
  engineName := "postgresql"
  catalog := parcelsCatalog
  options := .object [("package", .string "db"), ("primary_keys_columns",
    .array [.string "depot.parcels.serial", .string "public.parcels.code", .string "parcels.id"])]

/-- What the documents of this request settle to. -/
def parcelsOptions : Options :=
  { Options.new .postgresql "db" with
    primaryKeys := [⟨some "depot", "parcels", "serial"⟩, ⟨some "public", "parcels", "code"⟩,
      ⟨none, "parcels", "id"⟩] }

/-- The entity of the parcels. -/
def parcelEntity : Entity :=
  parcelsOptions.entityOf (.ofCatalog parcelsOptions parcelsCatalog)
    (Table.qualify { rel := { name := "parcels" }, columns := [{ name := "id" }, { name := "code" }] } "")

theorem entities_parcels : (Generation.ofCatalog parcelsOptions parcelsCatalog).entities = [parcelEntity] := by
  rw [Generation.ofCatalog_eq]
  exact Generation.sortEntities_singleton _

/-- The second entry speaks of the default schema, so the code is the key although there is an `id`. -/
theorem ofRequest_primary_keys_parcels :
    Options.ofRequest .standard parcelsRequest = .ok parcelsOptions ∧
      ∃ g, Generation.ofRequest .standard parcelsRequest = .ok g ∧ g.entities = [parcelEntity] ∧
        parcelEntity.KeyedBy "code" ∧ parcelEntity.fields.map (·.isPrimaryKey) = [false, true] := by
  have accepted : Options.ofRequest .standard parcelsRequest = .ok parcelsOptions := by decide +kernel
  obtain ⟨d, g, -, hg, hentities⟩ := ofRequest_primary_keys accepted
  have hall : g.entities = [parcelEntity] := by
    rw [Generation.ofRequest_of_options accepted] at hg
    cases hg
    exact entities_parcels
  obtain ⟨-, column, -, hkeyed⟩ := hentities parcelEntity (by rw [hall]; exact List.mem_singleton_self _)
  -- A marked field of the code says which column the key lies in.
  have hcode : (true, "code") ∈ parcelEntity.fields.map fun f => (f.isPrimaryKey, f.dbName) := by decide +kernel
  obtain ⟨f, hf, heq⟩ := List.mem_map.1 hcode
  obtain ⟨hmarked, hname⟩ := Prod.mk.inj heq
  have hcolumn : column = "code" := ((hkeyed.marked f hf).1 hmarked).symm.trans hname
  exact ⟨accepted, g, hg, hall, hcolumn ▸ hkeyed, by decide +kernel⟩

end EntityModel
