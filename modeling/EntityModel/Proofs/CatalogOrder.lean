import EntityModel.Proofs.CatalogParts
import EntityModel.Proofs.Collector
import EntityModel.Proofs.StableSort

/-!
# Catalogs in another order

Schemas, and what lies in a schema, come in no order of their own. If every declared type has a name to
itself (`declaredNames`), a catalog in another order resolves every column as before (`find?_of_reordered`);
if the entities have distinct names too, they come out in the same list, since they are sorted in the end.
The reports are the same in another order (`ofRequest_of_reordered`).
-/

namespace EntityModel

variable {lib : Libraries}

/-! ## Another order -/

/-- A schema with its tables and types in another order. -/
structure Schema.Reordered (s s' : Schema) : Prop where
  name : s'.name = s.name
  comment : s'.comment = s.comment
  tables : s'.tables.Perm s.tables
  enums : s'.enums.Perm s.enums
  compositeTypes : s'.compositeTypes.Perm s.compositeTypes

/-- A catalog with its schemas, and what lies in them, in another order. -/
structure Catalog.Reordered (c c' : Catalog) : Prop where
  name : c'.name = c.name
  comment : c'.comment = c.comment
  defaultSchema : c'.defaultSchema = c.defaultSchema
  schemas : ∃ moved : List Schema, moved.Perm c.schemas ∧ List.Forall₂ Schema.Reordered moved c'.schemas

/-- Two requests that differ in the order of their catalogs only. -/
structure Request.Reordered (r r' : Request) : Prop where
  engineName : r'.engineName = r.engineName
  options : r'.options = r.options
  globalOptions : r'.globalOptions = r.globalOptions
  catalog : r.catalog.Reordered r'.catalog

theorem flatMap_perm_of_forall₂ {α β : Type} {f : α → List β} {xs ys : List α}
    (h : List.Forall₂ (fun x y => (f y).Perm (f x)) xs ys) : (ys.flatMap f).Perm (xs.flatMap f) := by
  induction h with
  | nil => exact .refl _
  | cons hxy _ ih =>
    rw [List.flatMap_cons, List.flatMap_cons]
    exact hxy.append ih

namespace Schema.Reordered

variable {s s' : Schema} (h : s.Reordered s')
include h

theorem isInternal_eq : s'.isInternal = s.isInternal := by
  rw [isInternal, isInternal, h.name]

theorem entityTables_perm : s'.entityTables.Perm s.entityTables := by
  unfold entityTables
  rw [h.isInternal_eq, h.name]
  split
  · exact .refl _
  · exact h.tables.map _

theorem entries_perm (o : Options) : (s'.entries o).Perm (s.entries o) := by
  unfold entries customTypes
  rw [h.isInternal_eq, h.name]
  split
  · exact .refl _
  · exact (h.enums.flatMap_right _).append (h.compositeTypes.flatMap_right _)

end Schema.Reordered

namespace Catalog.Reordered

variable {c c' : Catalog} (h : c.Reordered c')
include h

/-- What all schemas add to a list, if what each adds is only reordered. -/
theorem flatMap_perm {β : Type} {f : Schema → List β}
    (hf : ∀ {s s' : Schema}, s.Reordered s' → (f s').Perm (f s)) :
    (c'.schemas.flatMap f).Perm (c.schemas.flatMap f) := by
  obtain ⟨moved, hmoved, hs⟩ := h.schemas
  have hinner : (c'.schemas.flatMap f).Perm (moved.flatMap f) :=
    flatMap_perm_of_forall₂ (hs.imp fun _ _ hs => hf hs)
  exact hinner.trans (hmoved.flatMap_right f)

theorem userTables_perm : c'.userTables.Perm c.userTables := by
  rw [userTables_eq, userTables_eq]
  exact h.flatMap_perm fun hs => hs.entityTables_perm

theorem entries_perm (o : Options) :
    (CustomTypes.ofCatalog o c').entries.Perm (CustomTypes.ofCatalog o c).entries := by
  rw [entries_ofCatalog, entries_ofCatalog]
  exact h.flatMap_perm fun hs => hs.entries_perm o

end Catalog.Reordered

/-! ## Custom types with names of their own -/

theorem find?_eq_of_perm {α : Type} {p : α → Bool} {xs ys : List α} (h : ys.Perm xs)
    (unique : ∀ x ∈ xs, ∀ y ∈ xs, p x = true → p y = true → x = y) : ys.find? p = xs.find? p := by
  cases hx : xs.find? p with
  | none =>
    rw [List.find?_eq_none] at hx ⊢
    exact fun y hy => hx y (h.mem_iff.1 hy)
  | some x =>
    have hxm : x ∈ xs := List.mem_of_find?_eq_some hx
    have hxp : p x = true := List.find?_some hx
    cases hy : ys.find? p with
    | none => exact absurd hxp (List.find?_eq_none.1 hy x (h.mem_iff.2 hxm))
    | some y =>
      have hym : y ∈ xs := h.mem_iff.1 (List.mem_of_find?_eq_some hy)
      rw [unique y hym x hxm (List.find?_some hy) hxp]

theorem names_customTypes (o : Options) (s : Schema) (nullable : Bool) :
    ((s.customTypes o).filter (·.nullable == nullable)).map (fun e => (e.schema, e.name)) =
      s.declaredNames := by
  have henum (e : EnumType) : ((e.customTypes o s.name).filter (·.nullable == nullable)).map
      (fun e => (e.schema, e.name)) = [(s.name, e.name)] := by
    cases nullable <;> rfl
  have hcomposite (t : CompositeType) : ((t.customTypes o s.name).filter (·.nullable == nullable)).map
      (fun e => (e.schema, e.name)) = [(s.name, t.name)] := by
    cases nullable <;> rfl
  simp only [Schema.customTypes, Schema.declaredNames, List.filter_append, List.filter_flatMap,
    List.map_append, List.map_flatMap, henum, hcomposite, ← List.map_eq_flatMap]

/-- For each nullability, one entry for each declaration. -/
theorem names_ofCatalog (o : Options) (c : Catalog) (nullable : Bool) :
    ((CustomTypes.ofCatalog o c).entries.filter (·.nullable == nullable)).map
      (fun e => (e.schema, e.name)) = c.declaredNames := by
  simp only [CustomTypes.ofCatalog, Catalog.declaredNames, List.filter_flatMap, List.map_flatMap,
    names_customTypes]

theorem entries_unique {o : Options} {c : Catalog} (declaredOnce : c.declaredNames.Nodup)
    {a b : CustomType} (ha : a ∈ (CustomTypes.ofCatalog o c).entries)
    (hb : b ∈ (CustomTypes.ofCatalog o c).entries) (hschema : a.schema = b.schema)
    (hname : a.name = b.name) (hnullable : a.nullable = b.nullable) : a = b := by
  rw [← names_ofCatalog o c b.nullable] at declaredOnce
  refine List.inj_on_of_nodup_map declaredOnce ?_ ?_ (Prod.ext hschema hname)
  · exact List.mem_filter.2 ⟨ha, beq_iff_eq.2 hnullable⟩
  · exact List.mem_filter.2 ⟨hb, beq_self_eq_true _⟩

/-- A catalog in another order has the same custom type for a column. -/
theorem find?_of_reordered {c c' : Catalog} (h : c.Reordered c') (declaredOnce : c.declaredNames.Nodup)
    (o : Options) (column : Column) (notNull : Bool) :
    (CustomTypes.ofCatalog o c').find? column notNull =
      (CustomTypes.ofCatalog o c).find? column notNull := by
  refine find?_eq_of_perm (h.entries_perm o) fun a ha b hb hpa hpb => ?_
  simp only [Bool.and_eq_true, beq_iff_eq] at hpa hpb
  obtain ⟨⟨haSchema, haName⟩, haNullable⟩ := hpa
  obtain ⟨⟨hbSchema, hbName⟩, hbNullable⟩ := hpb
  exact entries_unique declaredOnce ha hb (haSchema.trans hbSchema.symm) (haName.trans hbName.symm)
    (haNullable.trans hbNullable.symm)

/-! ## Entities and reports -/

namespace Options

variable {o : Options} {custom custom' : CustomTypes}
  (h : ∀ column notNull, custom'.find? column notNull = custom.find? column notNull)
include h

theorem resolve_congr (column : Column) : o.resolve custom' column = o.resolve custom column := by
  simp only [resolve, sourceType, TypeTable.resolve, TypeTable.resolveGap, h]

theorem entityOf_congr (t : Table) : o.entityOf custom' t = o.entityOf custom t := by
  have hfield (key : String) : o.fieldOf custom' key = o.fieldOf custom key := by
    funext column
    rw [fieldOf, fieldOf, resolve_congr h]
  rw [entityOf, entityOf, hfield]

theorem reportsOf_congr (t : Table) : o.reportsOf custom' t = o.reportsOf custom t := by
  have hcolumn : o.columnReports custom' = o.columnReports custom := by
    funext column
    rw [columnReports, columnReports, resolve_congr h]
  rw [reportsOf, reportsOf, hcolumn]

end Options

theorem ofRequest_eq_of_reordered {r r' : Request} (h : r.Reordered r') :
    Options.ofRequest lib r' = Options.ofRequest lib r := by
  unfold Options.ofRequest
  rw [h.engineName, h.options, h.globalOptions, h.catalog.defaultSchema]

/-- Generations of the same entities and reports. -/
structure Generation.SameParts (g g' : Generation) : Prop where
  entities_perm : g'.entities.Perm g.entities
  /-- Entities with distinct names come out in one order. -/
  entities_eq : (g.entities.map (·.type.base)).Nodup → g'.entities = g.entities
  diagnostics_perm : g'.diagnostics.Perm g.diagnostics

theorem ofCatalog_of_reordered {c c' : Catalog} (h : c.Reordered c') (declaredOnce : c.declaredNames.Nodup)
    (o : Options) : (Generation.ofCatalog o c).SameParts (Generation.ofCatalog o c') := by
  have hfind := find?_of_reordered h declaredOnce o
  have hentities : o.entityOf (.ofCatalog o c') = o.entityOf (.ofCatalog o c) :=
    funext (Options.entityOf_congr hfind)
  have hreports : o.reportsOf (.ofCatalog o c') = o.reportsOf (.ofCatalog o c) :=
    funext (Options.reportsOf_congr hfind)
  rw [Generation.ofCatalog_eq, Generation.ofCatalog_eq, hentities, hreports]
  have hperm : (c'.userTables.map (o.entityOf (.ofCatalog o c))).Perm
      (c.userTables.map (o.entityOf (.ofCatalog o c))) := h.userTables_perm.map _
  refine ⟨?_, fun distinct => ?_, h.userTables_perm.flatMap_right _⟩
  · exact (Generation.sortEntities_perm _).trans (hperm.trans (Generation.sortEntities_perm _).symm)
  · refine Generation.sortEntities_eq_of_perm hperm ?_
    exact ((Generation.sortEntities_perm _).map _).nodup_iff.1 distinct

/-- **The order of a catalog does not matter.** If no two declared types share a schema and a name, both
requests have a generation, with the same reports, and the same list of entities if these have distinct
names. -/
theorem ofRequest_of_reordered {r r' : Request} {o : Options} (accepted : Options.ofRequest lib r = .ok o)
    (reordered : r.Reordered r') (declaredOnce : r.catalog.declaredNames.Nodup) :
    ∃ g g', Generation.ofRequest lib r = .ok g ∧ Generation.ofRequest lib r' = .ok g' ∧ g.SameParts g' := by
  have accepted' : Options.ofRequest lib r' = .ok o := (ofRequest_eq_of_reordered reordered).trans accepted
  exact ⟨_, _, Generation.ofRequest_of_options accepted, Generation.ofRequest_of_options accepted',
    ofCatalog_of_reordered reordered.catalog declaredOnce o⟩

/-- A table with a column of a type that nothing declares, and one of an enum. -/
def shopTable (name : String) : Table where
  rel := { name }
  columns := [{ name := "shape", type := { name := "polygon3d" } },
    { name := "state", type := { name := "state" } }]

/-- A schema of two tables and two enums. -/
def shopSchema : Schema where
  name := "public"
  tables := [shopTable "orders", shopTable "items"]
  enums := [{ name := "state" }, { name := "color" }]

/-- The same schema from its end to its start. -/
def turnedSchema : Schema where
  name := "public"
  tables := [shopTable "items", shopTable "orders"]
  enums := [{ name := "color" }, { name := "state" }]

/-- A schema with an enum of a name that the other schema has too. -/
def stockSchema : Schema where
  name := "stock"
  enums := [{ name := "state" }]

/-- A request for the entities of some schemas. -/
def shopRequest (schemas : List Schema) : Request where
  engineName := "postgresql"
  catalog := { schemas }
  options := .object [("package", .string "db")]

theorem reordered_shopRequest :
    (shopRequest [shopSchema, stockSchema]).Reordered (shopRequest [stockSchema, turnedSchema]) := by
  have stays : stockSchema.Reordered stockSchema := ⟨rfl, rfl, .refl _, .refl _, .refl _⟩
  have turns : shopSchema.Reordered turnedSchema := ⟨rfl, rfl, .swap _ _ _, .swap _ _ _, .refl _⟩
  have moved : ([stockSchema, shopSchema] : List Schema).Perm [shopSchema, stockSchema] := .swap _ _ _
  exact ⟨rfl, rfl, rfl, rfl, rfl, rfl, _, moved, .cons stays (.cons turns .nil)⟩

/-- The entities of both requests are the same, as their names differ. -/
theorem ofRequest_of_reordered_shop :
    ∃ g g', Generation.ofRequest .standard (shopRequest [shopSchema, stockSchema]) = .ok g ∧
      Generation.ofRequest .standard (shopRequest [stockSchema, turnedSchema]) = .ok g' ∧
      g'.entities = g.entities ∧ g'.diagnostics.Perm g.diagnostics := by
  have accepted : Options.ofRequest .standard (shopRequest [shopSchema, stockSchema]) =
      .ok (.new .postgresql "db") := rfl
  obtain ⟨g, g', hg, hg', hsame⟩ :=
    ofRequest_of_reordered accepted reordered_shopRequest (by decide)
  refine ⟨g, g', hg, hg', hsame.entities_eq ?_, hsame.diagnostics_perm⟩
  rw [Generation.ofRequest_of_options accepted] at hg
  cases hg
  rw [Generation.ofCatalog_eq]
  exact ((Generation.sortEntities_perm _).map _).nodup_iff.2 (by decide)

end EntityModel
