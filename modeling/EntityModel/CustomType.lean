import EntityModel.Naming.Renamed

/-!
# Custom types

The target types of the enums and composite types that the catalog declares. An enum becomes a generated
type and a nullable variant of it, a composite type is scanned as text. Every declaration outside the
schemas of engine internals has two entries, one for each nullability (`length_ofCatalog`), and of several
entries for one name the first counts.
-/

namespace EntityModel

/-- The two kinds of declared types. -/
inductive CustomKind where
  | enum
  | composite
  deriving DecidableEq, Repr, Inhabited

namespace CustomKind

/-- The name of a kind in output. -/
def name : CustomKind → String
  | enum => "enum"
  | composite => "composite"

end CustomKind

/-- The target type of a declared type for one nullability. -/
structure CustomType where
  schema : String
  name : String
  kind : CustomKind
  nullable : Bool
  type : TargetType
  deriving DecidableEq, Repr

/-- A generated type, qualified by the package it is generated into; the package may be given by name or
by import path. -/
def modelType (modelImport name : String) : TargetType :=
  if modelImport = "" then .builtin name
  else (TargetType.parse? (modelImport ++ "." ++ name)).getD (.qualified modelImport name)

/-- What a nullable composite value is scanned into. -/
def nullableComposite (o : Options) : TargetType :=
  if o.driver = .pgxV5 ∧ o.emitPointers = true then (TargetType.builtin "string").toPointer
  else (TargetType.sql "NullString").withOrigin ⟨"database/sql", none⟩

/-- The entries of an enum. -/
def EnumType.customTypes (o : Options) (schema : String) (e : EnumType) : List CustomType :=
  let base := o.identifier (o.flatName schema e.name)
  [⟨schema, e.name, .enum, true, modelType o.modelImport ("Null" ++ base)⟩,
   ⟨schema, e.name, .enum, false, modelType o.modelImport base⟩]

/-- The entries of a composite type. -/
def CompositeType.customTypes (o : Options) (schema : String) (c : CompositeType) : List CustomType :=
  [⟨schema, c.name, .composite, false, .builtin "string"⟩,
   ⟨schema, c.name, .composite, true, nullableComposite o⟩]

/-- The entries of a schema, those of enums first. -/
def Schema.customTypes (o : Options) (s : Schema) : List CustomType :=
  s.enums.flatMap (EnumType.customTypes o s.name) ++
    s.compositeTypes.flatMap (CompositeType.customTypes o s.name)

/-- The names of the types that a schema declares, with its own. -/
def Schema.declaredNames (s : Schema) : List (String × String) :=
  s.enums.map (fun e => (s.name, e.name)) ++ s.compositeTypes.map (fun t => (s.name, t.name))

/-- The names of all types declared outside engine internals. -/
def Catalog.declaredNames (c : Catalog) : List (String × String) :=
  c.userSchemas.flatMap Schema.declaredNames

/-- The custom types of a catalog, with the schema of unqualified types. -/
structure CustomTypes where
  entries : List CustomType
  defaultSchema : String
  deriving DecidableEq, Repr

namespace CustomTypes

/-- The custom types that a catalog declares. -/
def ofCatalog (o : Options) (c : Catalog) : CustomTypes :=
  ⟨c.userSchemas.flatMap (Schema.customTypes o), o.defaultSchema⟩

/-- The first entry for a column's type with the given nullability. -/
def find? (types : CustomTypes) (column : Column) (notNull : Bool) : Option CustomType :=
  let schema := column.type.schemaOr types.defaultSchema
  types.entries.find? fun e =>
    e.schema == schema && e.name == column.type.name && e.nullable == !notNull

/-- Lists of two, put together. -/
theorem length_flatMap_pair {α β : Type} {f : α → List β} (pair : ∀ a, (f a).length = 2) (as : List α) :
    (as.flatMap f).length = 2 * as.length := by
  induction as with
  | nil => rfl
  | cons a rest ih =>
    rw [List.flatMap_cons, List.length_append, pair, ih, List.length_cons]
    omega

theorem length_ofCatalog (o : Options) (c : Catalog) :
    (ofCatalog o c).entries.length = 2 * c.declaredNames.length := by
  have schemas (s : Schema) : (s.customTypes o).length = 2 * s.declaredNames.length := by
    simp only [Schema.customTypes, Schema.declaredNames, List.length_append, List.length_map,
      length_flatMap_pair (fun e : EnumType => show (e.customTypes o s.name).length = 2 from rfl),
      length_flatMap_pair (fun t : CompositeType => show (t.customTypes o s.name).length = 2 from rfl), Nat.mul_add]
  simp only [ofCatalog, Catalog.declaredNames]
  induction c.userSchemas with
  | nil => rfl
  | cons s rest ih =>
    rw [List.flatMap_cons, List.flatMap_cons, List.length_append, List.length_append, ih, schemas, Nat.mul_add]

end CustomTypes

end EntityModel
