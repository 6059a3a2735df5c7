import EntityModel.Proofs.Collector
import EntityModel.Proofs.CompactForm
import EntityModel.Proofs.OverrideOrder
import EntityModel.Proofs.SourceOrder
import EntityModel.Proofs.TablePackages

/-!
# Imports bind the qualifiers of types

A type is written with its qualifier, which has to be the name under which its import is known. Types are
made in many places: the type tables, the entries for declared types, overrides in compact form or in
parts, the package of the generated code. `TargetType.Bound` is what all of them keep, and it stays when a
default import is looked up and dimensions are added (`Completes.bound`).

Main statement: under accepted options the types of columns and entities are bound, and a type of the
engine's table or of a composite type has the default import of its package (`resolve_binds_qualifiers`).
-/

namespace EntityModel

variable {lib : Libraries}

/-- The name under which code knows an imported package: its local name, or the one that its path implies. -/
def Import.boundName (i : Import) : String := i.localName.getD (PackagePath.name i.path)

/-- What a type is imported from has a path, and is known under the qualifier of the type. -/
def TargetType.Bound (t : TargetType) : Prop :=
  ∀ i, t.origin = some i → i.path ≠ "" ∧ t.qualifier = i.boundName

/-! ## Types of one origin -/

namespace TargetType

theorem bound_of_no_origin {t : TargetType} (h : t.origin = none) : t.Bound := by
  intro i hi
  rw [h] at hi
  cases hi

/-- Wrappers and the base name do not matter. -/
theorem Bound.congr {t u : TargetType} (h : t.Bound) (horigin : u.origin = t.origin)
    (hqualifier : u.qualifier = t.qualifier) : u.Bound := by
  intro i hi
  rw [hqualifier]
  exact h i (horigin ▸ hi)

theorem bound_withOrigin {t : TargetType} {i : Import} (h : t.qualifier = i.boundName) :
    (t.withOrigin i).Bound := by
  intro j hj
  unfold withOrigin at hj
  split at hj
  · cases hj
  · next hp =>
    cases hj
    exact ⟨hp, h⟩

/-! ## Types from texts -/

theorem bound_ofParts (qualifier base : List Char) : (ofParts qualifier base).Bound := by
  unfold ofParts
  split
  · exact bound_withOrigin rfl
  · exact bound_of_no_origin rfl

theorem bound_of_readNamed {cs : List Char} {t : TargetType} (read : readNamed cs = some t) : t.Bound := by
  rcases readNamed_cases read with rfl | ⟨qualifier, base, -, -, -, rfl⟩
  · exact bound_of_no_origin rfl
  · exact bound_ofParts qualifier base

theorem bound_of_parse? {s : String} {t : TargetType} (read : parse? s = some t) : t.Bound := by
  obtain ⟨_, _, _, u, -, -, hu, rfl⟩ := exists_name_of_readCompact read
  exact (bound_of_readNamed hu).congr rfl rfl

theorem parse_eq_ok_iff {s : String} {t : TargetType} : parse s = .ok t ↔ parse? s = some t := by
  unfold parse
  split
  · next type hparse => simp [hparse]
  · next hparse => simp [hparse]

end TargetType

/-! ## Overrides -/

theorem bound_of_named {d : TypeParts} {t : TargetType} (h : d.named = .ok t) : t.Bound := by
  unfold TypeParts.named at h
  split at h
  · exact TargetType.bound_of_parse? (TargetType.parse_eq_ok_iff.1 h)
  · cases h
    refine TargetType.bound_withOrigin ?_
    -- An empty package is no local name, and the qualifier is then the one that the path implies.
    by_cases hp : d.package = ""
    · simp [TargetType.qualified, Import.boundName, Import.aliased, hp]
    · simp [TargetType.qualified, Import.boundName, Import.aliased, hp]

/-- The pointer and the slice of a type in parts do not matter for its name and its import. -/
theorem exists_named_of_typeParts {d : TypeParts} {t : TargetType} (h : d.type = .ok t) :
    ∃ named, d.named = .ok named ∧ t.base = named.base ∧ t.qualifier = named.qualifier ∧
      t.origin = named.origin := by
  unfold TypeParts.type at h
  split at h
  · cases h
  · split at h
    · cases h
    · obtain ⟨named, hn, h⟩ := bind_eq_ok_iff.1 h
      cases h
      refine ⟨named, hn, ?_⟩
      cases d.pointer <;> cases d.slice <;> exact ⟨rfl, rfl, rfl⟩

theorem bound_of_typeParts {d : TypeParts} {t : TargetType} (h : d.type = .ok t) : t.Bound := by
  obtain ⟨named, hn, -, hqualifier, horigin⟩ := exists_named_of_typeParts h
  exact (bound_of_named hn).congr horigin hqualifier

theorem parse?_of_typeCompact {text : String} {t : TargetType} (h : (TypeSpec.compact text).type = .ok t) :
    TargetType.parse? text = some t := by
  simp only [TypeSpec.type] at h
  split at h
  · cases h
  · exact TargetType.parse_eq_ok_iff.1 h

theorem bound_of_typeSpec {spec : TypeSpec} {t : TargetType} (h : spec.type = .ok t) : t.Bound := by
  cases spec with
  | compact text => exact TargetType.bound_of_parse? (parse?_of_typeCompact h)
  | parts d => exact bound_of_typeParts h

/-- The rule that counts is one of the rules. -/
theorem mem_of_override? {o : Options} {column : Column} {rule : Override}
    (h : o.override? column = some rule) : rule ∈ o.overrides := by
  have hm := List.mem_of_find?_eq_some h
  simp only [List.mem_append, List.mem_filter] at hm
  rcases hm with hm | hm
  · exact hm.1
  · exact hm.1

theorem RulesOf.bound {engine : Engine} {defaultSchema : String} {entries : List OverrideSpec}
    {rules : List Override} (h : RulesOf lib engine defaultSchema entries rules) :
    ∀ rule ∈ rules, rule.type.Bound := by
  induction h with
  | nil => simp
  | cons hr _ ih =>
    intro rule hm
    rcases List.mem_cons.1 hm with rfl | hm
    · exact bound_of_typeSpec (ofSpec_eq_ok_iff.1 hr).2
    · exact ih rule hm

/-! ## Declared and generated types -/

theorem bound_modelType (modelImport name : String) : (modelType modelImport name).Bound := by
  unfold modelType
  split
  · exact TargetType.bound_of_no_origin rfl
  · cases h : TargetType.parse? (modelImport ++ "." ++ name) with
    | none => exact TargetType.bound_of_no_origin rfl
    | some t => exact TargetType.bound_of_parse? h

theorem bound_nullableComposite (o : Options) : (nullableComposite o).Bound := by
  unfold nullableComposite
  split
  · exact TargetType.bound_of_no_origin rfl
  · exact TargetType.bound_withOrigin (by decide)

/-- How the entries for enums and for composite types get their types. -/
theorem type_of_mem_entries {o : Options} {c : Catalog} {entry : CustomType}
    (h : entry ∈ (CustomTypes.ofCatalog o c).entries) :
    (entry.kind = .enum ∧ ∃ name, entry.type = modelType o.modelImport name) ∨
      (entry.kind = .composite ∧
        (entry.type = .builtin "string" ∨ entry.type = nullableComposite o)) := by
  obtain ⟨s, -, hs⟩ := List.mem_flatMap.1 h
  rcases List.mem_append.1 hs with he | hc
  · obtain ⟨e, -, he⟩ := List.mem_flatMap.1 he
    rcases List.mem_pair.1 he with rfl | rfl
    · exact .inl ⟨rfl, _, rfl⟩
    · exact .inl ⟨rfl, _, rfl⟩
  · obtain ⟨t, -, ht⟩ := List.mem_flatMap.1 hc
    rcases List.mem_pair.1 ht with rfl | rfl
    · exact .inr ⟨rfl, .inl rfl⟩
    · exact .inr ⟨rfl, .inr rfl⟩

theorem bound_of_mem_entries {o : Options} {c : Catalog} {entry : CustomType}
    (h : entry ∈ (CustomTypes.ofCatalog o c).entries) : entry.type.Bound := by
  rcases type_of_mem_entries h with ⟨-, name, ht⟩ | ⟨-, ht | ht⟩
  · rw [ht]
    exact bound_modelType o.modelImport name
  · rw [ht]
    exact TargetType.bound_of_no_origin rfl
  · rw [ht]
    exact bound_nullableComposite o

/-! ## From the source of a type to the type of a column -/

theorem Import.bound_default? {driver : Driver} {qualifier : String} {i : Import}
    (h : Import.default? driver qualifier = some i) : i.path ≠ "" ∧ qualifier = i.boundName := by
  unfold Import.default? at h
  split at h
  case h_7 =>
    split at h
    all_goals
      cases h
      exact ⟨by decide, by decide⟩
  case h_11 => cases h
  all_goals
    cases h
    exact ⟨by decide, by decide⟩

/-- A default import is looked up by the qualifier, and is known under it. -/
theorem Completes.bound {driver : Driver} {found result : TargetType} {extra : Nat}
    (h : Completes driver found extra result) (hb : found.Bound) : result.Bound := by
  intro i hi
  rw [h.origin] at hi
  rw [h.qualifier]
  cases ho : found.origin with
  | some j =>
    rw [ho, Option.some_or] at hi
    exact hb i (ho.trans hi)
  | none =>
    rw [ho, Option.none_or] at hi
    exact Import.bound_default? hi

theorem Answers.bound {engine : Engine} {fallbackSchema : String} {d : OptionsDocument}
    {g : GlobalOptionsDocument} {o : Options} {c : Catalog} {column : Column} {source : TypeSource}
    (hs : Settled lib engine fallbackSchema d g o) (h : Answers o (.ofCatalog o c) column source) :
    source.type.Bound := by
  cases h with
  | override ho => exact hs.overrides.bound _ (mem_of_override? ho)
  | table _ ht => exact TargetType.bound_of_no_origin (known_of_lookup ht).1
  | custom _ _ hc => exact bound_of_mem_entries (List.mem_of_find?_eq_some hc)
  | placeholder => exact TargetType.bound_of_no_origin rfl

/-! ## Default imports -/

/-- A type of a package is imported as the package is by default. -/
def TargetType.ImportedByDefault (driver : Driver) (t : TargetType) : Prop :=
  t.qualifier ≠ "" → ∃ i, t.origin = some i ∧ Import.default? driver t.qualifier = some i

/-- The sources whose types are written in code of their own: the engine's table and the composite types. -/
def TypeSource.IsBuiltIn : TypeSource → Prop
  | table _ => True
  | custom entry => entry.kind = .composite
  | override _ => False
  | placeholder _ => False

theorem Completes.importedByDefault {driver : Driver} {found result : TargetType} {extra : Nat}
    (h : Completes driver found extra result)
    (hd : found.qualifier ≠ "" → ∃ i, Import.default? driver found.qualifier = some i ∧
      (found.origin = none ∨ found.origin = some i)) : result.ImportedByDefault driver := by
  intro hq
  rw [h.qualifier] at hq ⊢
  obtain ⟨i, hi, ho | ho⟩ := hd hq
  · exact ⟨i, by rw [h.origin, ho, Option.none_or, hi], hi⟩
  · exact ⟨i, by rw [h.origin, ho, Option.some_or], hi⟩

theorem exists_default?_of_known {t : TargetType} (h : t.Known) (hq : t.qualifier ≠ "")
    (driver : Driver) : ∃ i, Import.default? driver t.qualifier = some i := by
  rw [← Option.isSome_iff_exists, Import.isSome_default?_iff]
  exact h.2.resolve_left hq

/-- The import of a nullable composite type is the default one for any driver. -/
theorem origin_nullableComposite (o : Options) (hq : (nullableComposite o).qualifier ≠ "")
    (driver : Driver) : ∃ i, Import.default? driver (nullableComposite o).qualifier = some i ∧
      (nullableComposite o).origin = some i := by
  unfold nullableComposite at hq ⊢
  split
  · next h =>
    rw [if_pos h] at hq
    exact absurd rfl hq
  · exact ⟨⟨"database/sql", none⟩, rfl, rfl⟩

theorem Answers.importedByDefault {o : Options} {c : Catalog} {column : Column} {source : TypeSource}
    {result : TargetType} {extra : Nat} (h : Answers o (.ofCatalog o c) column source)
    (hb : source.IsBuiltIn) (hr : Completes o.driver source.type extra result) :
    result.ImportedByDefault o.driver := by
  refine hr.importedByDefault fun hq => ?_
  cases h with
  | override => exact hb.elim
  | table _ ht =>
    have hk := known_of_lookup ht
    obtain ⟨i, hi⟩ := exists_default?_of_known hk hq o.driver
    exact ⟨i, hi, .inl hk.1⟩
  | @custom _ entry _ _ hc =>
    have hq' : entry.type.qualifier ≠ "" := hq
    show ∃ i, Import.default? o.driver entry.type.qualifier = some i ∧ _
    rcases type_of_mem_entries (List.mem_of_find?_eq_some hc) with ⟨hk, -⟩ | ⟨-, ht | ht⟩
    · exact absurd (hk.symm.trans hb) (by decide)
    · rw [ht] at hq'
      exact absurd rfl hq'
    · rw [ht] at hq' ⊢
      obtain ⟨i, hi, ho⟩ := origin_nullableComposite o hq' o.driver
      exact ⟨i, hi, .inr (by rw [TypeSource.type, ht, ho])⟩
  | placeholder => exact hb.elim

/-! ## Columns and entities -/

/-- An entity of a generation is that of one of the tables. -/
theorem exists_table_of_mem_entities {o : Options} {c : Catalog} {e : Entity}
    (h : e ∈ (Generation.ofCatalog o c).entities) :
    ∃ t ∈ c.userTables, e = o.entityOf (.ofCatalog o c) t := by
  rw [Generation.ofCatalog_eq] at h
  have hm := (List.mergeSort_perm _ _).mem_iff.1 h
  obtain ⟨t, ht, rfl⟩ := List.mem_map.1 hm
  exact ⟨t, ht, rfl⟩

theorem bound_of_mem_entities {o : Options} {c : Catalog} {e : Entity}
    (h : e ∈ (Generation.ofCatalog o c).entities) : e.type.Bound := by
  obtain ⟨t, -, rfl⟩ := exists_table_of_mem_entities h
  exact bound_modelType _ _

/-- The type of a column completes that of the source that answers. -/
theorem Answers.completes {o : Options} {custom : CustomTypes} {column : Column} {source : TypeSource}
    (h : Answers o custom column source) (hd : o.typeTable.driver = o.driver) :
    Completes o.driver source.type (source.extraDepth column) (o.resolve custom column).type :=
  (h.outcome hd []).type

theorem bound_resolve {engine : Engine} {fallbackSchema : String} {d : OptionsDocument}
    {g : GlobalOptionsDocument} {o : Options} (hs : Settled lib engine fallbackSchema d g o) (c : Catalog)
    (column : Column) : (o.resolve (.ofCatalog o c) column).type.Bound := by
  obtain ⟨source, ha⟩ := exists_answers o (.ofCatalog o c) column
  exact (ha.completes (driver_typeTable hs)).bound (ha.bound hs)

/-- **Imports bind the qualifiers of types.** Under accepted options this holds of the types of all columns
and entities. The types that come from the engine's table and from composite types have the import that
is the default for their package under the driver of the options. -/
theorem resolve_binds_qualifiers {engine : Engine} {fallbackSchema : String} {run project : Json}
    {o : Options} (accepted : Options.ofDocumentsIn lib engine fallbackSchema run project = .ok o)
    (c : Catalog) :
    (∀ column, (o.resolve (.ofCatalog o c) column).type.Bound ∧
      ∀ source, Answers o (.ofCatalog o c) column source → source.IsBuiltIn →
        (o.resolve (.ofCatalog o c) column).type.ImportedByDefault o.driver) ∧
      ∀ e ∈ (Generation.ofCatalog o c).entities, e.type.Bound := by
  obtain ⟨d, g, -, -, hs, -⟩ := Options.ofDocumentsIn_eq_ok_iff.1 accepted
  refine ⟨fun column => ⟨bound_resolve hs c column, fun source ha hb => ?_⟩, ?_⟩
  · exact ha.importedByDefault hb (ha.completes (driver_typeTable hs))
  · exact fun e he => bound_of_mem_entities he

/-- A run with a package for the generated code, and a type for keys under a local name of its package. -/
def ordersRun : Json :=
  .object [("package", .string "db"), ("model_import", .string "example.com/shop/v2"),
    ("overrides", .array [.object [("column", .string "orders.id"),
      ("go_type", .object [("import", .string "example.com/ids"), ("package", .string "ident"),
        ("type", .string "Order")])]])]

/-- The type of the keys. -/
def orderKeyRule : Override where
  selector := .named ⟨none, ⟨"public"⟩, ⟨"orders"⟩⟩ ⟨"id"⟩
  type := (TargetType.qualified "ident" "Order").withOrigin ⟨"example.com/ids", some "ident"⟩

/-- What this run settles to. -/
def ordersOptions : Options :=
  { Options.new .postgresql "db" with
    overrides := [orderKeyRule], modelImport := "example.com/shop/v2" }

/-- The key of the orders. -/
def orderKey : Column where
  name := "id"
  notNull := true
  table := some { name := "orders" }
  type := { name := "uuid" }

/-- A column of a composite type that may be null. -/
def orderAddress : Column where
  name := "address"
  type := { name := "address" }

/-- The orders, with the type of their addresses. -/
def ordersCatalog : Catalog where
  schemas := [
    { name := "public", tables := [{ rel := { name := "orders" }, columns := [orderKey, orderAddress] }]
      compositeTypes := [{ name := "address" }] }]

/-- The key's type is known under a local name, and that of the address under the name of its package. -/
theorem resolve_binds_qualifiers_orders :
    Options.ofDocumentsIn .standard .postgresql "public" ordersRun .null = .ok ordersOptions ∧
      (ordersOptions.resolve (.ofCatalog ordersOptions ordersCatalog) orderKey).type.Bound ∧
      (ordersOptions.resolve (.ofCatalog ordersOptions ordersCatalog) orderKey).type = orderKeyRule.type ∧
      (ordersOptions.resolve (.ofCatalog ordersOptions ordersCatalog) orderAddress).type.ImportedByDefault
        .libPq ∧
      (ordersOptions.resolve (.ofCatalog ordersOptions ordersCatalog) orderAddress).type.qualifier = "sql" ∧
      ∀ e ∈ (Generation.ofCatalog ordersOptions ordersCatalog).entities, e.type.Bound := by
  have accepted : Options.ofDocumentsIn .standard .postgresql "public" ordersRun .null = .ok ordersOptions := by
    decide +kernel
  have notInTable : ordersOptions.typeTable.lookup orderAddress = TypeGap.unknownType.mapping := by
    decide +kernel
  obtain ⟨hcolumns, hentities⟩ := resolve_binds_qualifiers accepted ordersCatalog
  have noOverride : ordersOptions.override? orderAddress = none := by decide +kernel
  have answers : Answers ordersOptions (.ofCatalog ordersOptions ordersCatalog) orderAddress (.custom _) :=
    .custom noOverride notInTable rfl
  exact ⟨accepted, (hcolumns orderKey).1, by decide +kernel, (hcolumns orderAddress).2 _ answers rfl,
    by decide +kernel, hentities⟩

end EntityModel
