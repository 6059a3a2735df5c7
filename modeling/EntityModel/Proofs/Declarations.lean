import EntityModel.Proofs.CatalogOrder
import EntityModel.Proofs.OverrideOrder

/-!
# What declarations answer for a column

The custom types are a list of entries, two for each declaration and of both nullabilities, in which the first
entry for a column counts. In terms of the catalog this is the declaration that counts: of the schemas outside
engine internals with the name that the column's type has, the first that declares the type's name, and in it an
enum before a composite type (`Schema.Declares`).

Main statement: the entry for a column is that of the declaration that counts (`declaredEntry`), there is one
exactly if there is a declaration, and each declaration has one entry of each nullability
(`find?_follows_declarations`).
-/

namespace EntityModel

/-! ## Declarations -/

/-- A schema declares a name as a type of a kind. An enum hides a composite type of its name. -/
inductive Schema.Declares (s : Schema) (name : String) : CustomKind → Prop where
  | enum {e : EnumType} (listed : e ∈ s.enums) (named : e.name = name) : s.Declares name .enum
  | composite {t : CompositeType} (noEnum : ∀ e ∈ s.enums, e.name ≠ name) (listed : t ∈ s.compositeTypes)
      (named : t.name = name) : s.Declares name .composite

/-- A schema that a type is looked for in: one of the given name, outside engine internals, that declares it. -/
def Schema.Offers (schema name : String) (s : Schema) : Prop :=
  s.isInternal = false ∧ s.name = schema ∧ ∃ kind, s.Declares name kind

/-- The entry of a declared type for one nullability: an enum is a generated type, named after it and with a
nullable variant of its own, and a composite type is text. -/
def declaredEntry (o : Options) (schema name : String) (kind : CustomKind) (nullable : Bool) : CustomType where
  schema
  name
  kind
  nullable
  type :=
    match kind, nullable with
    | .enum, false => modelType o.modelImport (o.identifier (o.flatName schema name))
    | .enum, true => modelType o.modelImport ("Null" ++ o.identifier (o.flatName schema name))
    | .composite, false => .builtin "string"
    | .composite, true => nullableComposite o

namespace Schema

variable {s : Schema} {name : String}

theorem exists_declares_iff :
    (∃ kind, s.Declares name kind) ↔
      (∃ e ∈ s.enums, e.name = name) ∨ ∃ t ∈ s.compositeTypes, t.name = name := by
  constructor
  · rintro ⟨_, hd⟩
    cases hd with
    | enum listed named => exact .inl ⟨_, listed, named⟩
    | composite _ listed named => exact .inr ⟨_, listed, named⟩
  · intro h
    by_cases he : ∃ e ∈ s.enums, e.name = name
    · obtain ⟨e, listed, named⟩ := he
      exact ⟨.enum, .enum listed named⟩
    · obtain ⟨t, listed, named⟩ := h.resolve_left he
      exact ⟨.composite, .composite (fun e hm hn => he ⟨e, hm, hn⟩) listed named⟩

end Schema

/-! ## Entries -/

/-- Whether an entry is the one for a type of that name and nullability. -/
def CustomType.isFor (schema name : String) (nullable : Bool) (e : CustomType) : Bool :=
  e.schema == schema && e.name == name && e.nullable == nullable

variable {o : Options} {schema name : String} {nullable : Bool} {entry : CustomType}

theorem EnumType.customTypes_eq (s : String) (e : EnumType) :
    e.customTypes o s = [declaredEntry o s e.name .enum true, declaredEntry o s e.name .enum false] := rfl

theorem CompositeType.customTypes_eq (s : String) (t : CompositeType) :
    t.customTypes o s = [declaredEntry o s t.name .composite false, declaredEntry o s t.name .composite true] := rfl

/-- The two entries of a declaration, in either order, answer for its name alone. -/
theorem find?_bothEntries {s declared : String} {kind : CustomKind} (first : Bool) :
    [declaredEntry o s declared kind first, declaredEntry o s declared kind !first].find?
        (CustomType.isFor schema name nullable) = some entry ↔
      (s = schema ∧ declared = name) ∧ entry = declaredEntry o schema name kind nullable := by
  by_cases h : s = schema ∧ declared = name
  · obtain ⟨rfl, rfl⟩ := h
    cases first <;> cases nullable <;> simp [CustomType.isFor, declaredEntry, eq_comm]
  · rw [not_and_or] at h
    rcases h with h | h <;> simp [CustomType.isFor, declaredEntry, h]

/-- Searching what all items add to a list, if each adds the same answer or none. -/
theorem find?_flatMap_eq_some_iff {α β : Type} {f : α → List β} {p : β → Bool} {q : α → Prop} {answer : β}
    (h : ∀ x b, (f x).find? p = some b ↔ q x ∧ b = answer) {xs : List α} {b : β} :
    (xs.flatMap f).find? p = some b ↔ (∃ x ∈ xs, q x) ∧ b = answer := by
  rw [List.find?_flatMap]
  constructor
  · intro hb
    obtain ⟨x, hx, hb⟩ := List.exists_of_findSome?_eq_some hb
    obtain ⟨hq, rfl⟩ := (h x b).1 hb
    exact ⟨⟨x, hx, hq⟩, rfl⟩
  · rintro ⟨⟨x, hx, hq⟩, rfl⟩
    have hsome : (xs.findSome? fun x => (f x).find? p).isSome :=
      List.findSome?_isSome_iff.2 ⟨x, hx, by simp [(h x b).2 ⟨hq, rfl⟩]⟩
    obtain ⟨b', hb'⟩ := Option.isSome_iff_exists.1 hsome
    obtain ⟨y, -, hy⟩ := List.exists_of_findSome?_eq_some hb'
    rw [hb', ((h y b').1 hy).2]

/-- What one schema adds: the entry of its declaration, if it is a schema of the name outside engine internals. -/
theorem find?_entries {s : Schema} :
    (s.entries o).find? (CustomType.isFor schema name nullable) = some entry ↔
      s.isInternal = false ∧ s.name = schema ∧
        ∃ kind, s.Declares name kind ∧ entry = declaredEntry o schema name kind nullable := by
  have henums (b : CustomType) :
      (s.enums.flatMap (EnumType.customTypes o s.name)).find? (CustomType.isFor schema name nullable) = some b ↔
        (∃ e ∈ s.enums, s.name = schema ∧ e.name = name) ∧ b = declaredEntry o schema name .enum nullable :=
    find?_flatMap_eq_some_iff fun e _ => e.customTypes_eq s.name ▸ find?_bothEntries true
  have hcomposites (b : CustomType) :
      (s.compositeTypes.flatMap (CompositeType.customTypes o s.name)).find?
          (CustomType.isFor schema name nullable) = some b ↔
        (∃ t ∈ s.compositeTypes, s.name = schema ∧ t.name = name) ∧
          b = declaredEntry o schema name .composite nullable :=
    find?_flatMap_eq_some_iff fun t _ => t.customTypes_eq s.name ▸ find?_bothEntries false
  unfold Schema.entries
  cases hs : s.isInternal with
  | true => simp
  | false =>
    rw [if_neg Bool.false_ne_true, Schema.customTypes, List.find?_append, Option.or_eq_some_iff]
    constructor
    · rintro (h | ⟨hnone, h⟩)
      · obtain ⟨⟨e, listed, hschema, named⟩, rfl⟩ := (henums _).1 h
        exact ⟨rfl, hschema, .enum, .enum listed named, rfl⟩
      · obtain ⟨⟨t, listed, hschema, named⟩, rfl⟩ := (hcomposites _).1 h
        refine ⟨rfl, hschema, .composite, .composite (fun e he hn => ?_) listed named, rfl⟩
        have hsome := (henums _).2 ⟨⟨e, he, hschema, hn⟩, rfl⟩
        rw [hnone] at hsome
        cases hsome
    · rintro ⟨-, hschema, _, hd, rfl⟩
      cases hd with
      | enum listed named => exact .inl ((henums _).2 ⟨⟨_, listed, hschema, named⟩, rfl⟩)
      | composite noEnum listed named =>
        refine .inr ⟨Option.eq_none_iff_forall_ne_some.2 fun b hb => ?_, ?_⟩
        · obtain ⟨⟨e, he, -, hn⟩, -⟩ := (henums b).1 hb
          exact noEnum e he hn
        · exact (hcomposites _).2 ⟨⟨_, listed, hschema, named⟩, rfl⟩

theorem find?_entries_eq_none_iff {s : Schema} :
    (s.entries o).find? (CustomType.isFor schema name nullable) = none ↔ ¬ s.Offers schema name := by
  rw [Option.eq_none_iff_forall_ne_some]
  constructor
  · rintro h ⟨huser, hschema, kind, hd⟩
    exact h _ (find?_entries.2 ⟨huser, hschema, kind, hd, rfl⟩)
  · intro h b hb
    obtain ⟨huser, hschema, kind, hd, -⟩ := find?_entries.1 hb
    exact h ⟨huser, hschema, kind, hd⟩

/-! ## Lookups -/

/-- A lookup goes through the schemas and stops at the first that has an answer. -/
theorem find?_eq_findSome? (o : Options) (c : Catalog) (column : Column) (notNull : Bool) :
    (CustomTypes.ofCatalog o c).find? column notNull =
      c.schemas.findSome? fun s => (s.entries o).find?
        (CustomType.isFor (column.type.schemaOr o.defaultSchema) column.type.name !notNull) := by
  rw [← List.find?_flatMap, ← entries_ofCatalog]
  rfl

theorem find?_eq_some_iff_declared {c : Catalog} {column : Column} {notNull : Bool} :
    (CustomTypes.ofCatalog o c).find? column notNull = some entry ↔
      ∃ s kind, IsFirst (Schema.Offers (column.type.schemaOr o.defaultSchema) column.type.name) c.schemas s ∧
        s.Declares column.type.name kind ∧
        entry = declaredEntry o (column.type.schemaOr o.defaultSchema) column.type.name kind !notNull := by
  rw [find?_eq_findSome?, List.findSome?_eq_some_iff]
  simp only [find?_entries_eq_none_iff, find?_entries]
  constructor
  · rintro ⟨before, s, after, hsplit, ⟨huser, hschema, kind, hd, rfl⟩, hbefore⟩
    exact ⟨s, kind, ⟨before, after, hsplit, ⟨huser, hschema, kind, hd⟩, hbefore⟩, hd, rfl⟩
  · rintro ⟨s, kind, ⟨before, after, hsplit, ⟨huser, hschema, -⟩, hbefore⟩, hd, rfl⟩
    exact ⟨before, s, after, hsplit, ⟨huser, hschema, kind, hd, rfl⟩, hbefore⟩

/-- **Lookups follow the declarations.** The entry for a column is that of the first schema that declares its type,
and there is one exactly if there is such a schema. Each declaration has one entry of each nullability, in the order
of the declarations, and there are no others. -/
theorem find?_follows_declarations (o : Options) (c : Catalog) (column : Column) (notNull : Bool) :
    (∀ entry, (CustomTypes.ofCatalog o c).find? column notNull = some entry ↔
      ∃ s kind, IsFirst (Schema.Offers (column.type.schemaOr o.defaultSchema) column.type.name) c.schemas s ∧
        s.Declares column.type.name kind ∧
        entry = declaredEntry o (column.type.schemaOr o.defaultSchema) column.type.name kind !notNull) ∧
      ((∃ entry, (CustomTypes.ofCatalog o c).find? column notNull = some entry) ↔
        ∃ s ∈ c.schemas, s.isInternal = false ∧ s.name = column.type.schemaOr o.defaultSchema ∧
          ((∃ e ∈ s.enums, e.name = column.type.name) ∨
            ∃ t ∈ s.compositeTypes, t.name = column.type.name)) ∧
      (∀ nullable, ((CustomTypes.ofCatalog o c).entries.filter (·.nullable == nullable)).map
        (fun e => (e.schema, e.name)) = c.declaredNames) ∧
      (CustomTypes.ofCatalog o c).entries.length = 2 * c.declaredNames.length := by
  refine ⟨fun entry => find?_eq_some_iff_declared, ?_, names_ofCatalog o c, CustomTypes.length_ofCatalog o c⟩
  simp only [← Schema.exists_declares_iff]
  rw [← Option.isSome_iff_exists, find?_eq_findSome?, List.findSome?_isSome_iff]
  refine exists_congr fun s => and_congr_right fun _ => ?_
  rw [Option.isSome_iff_ne_none, ne_eq, find?_entries_eq_none_iff, not_not]
  rfl

end EntityModel
