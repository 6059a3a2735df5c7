import EntityModel.Generation.Basic

/-!
# The parts of a catalog

The tables and the custom types of a catalog, as what each schema adds to them, with nothing from the
schemas of engine internals. Proofs about changes to the schemas compare these, schema by schema.
-/

namespace EntityModel

namespace Schema

/-- The tables of a schema that become entities, qualified. -/
def entityTables (s : Schema) : List Table :=
  if s.isInternal then [] else s.tables.map (·.qualify s.name)

/-- The entries of a schema among the custom types. -/
def entries (o : Options) (s : Schema) : List CustomType :=
  if s.isInternal then [] else s.customTypes o

end Schema

theorem flatMap_filter_eq {α β : Type} (p : α → Bool) (f : α → List β) (xs : List α) :
    (xs.filter p).flatMap f = xs.flatMap fun x => if p x then f x else [] := by
  induction xs with
  | nil => rfl
  | cons x xs ih =>
    by_cases h : p x = true
    · simp only [List.filter_cons_of_pos h, List.flatMap_cons, ih, if_pos h]
    · simp only [List.filter_cons_of_neg h, List.flatMap_cons, ih, if_neg h, List.nil_append]

theorem userTables_eq (c : Catalog) : c.userTables = c.schemas.flatMap Schema.entityTables := by
  unfold Catalog.userTables Catalog.userSchemas
  rw [flatMap_filter_eq]
  congr 1
  funext s
  cases h : s.isInternal <;> simp [Schema.entityTables, h]

theorem entries_ofCatalog (o : Options) (c : Catalog) :
    (CustomTypes.ofCatalog o c).entries = c.schemas.flatMap (Schema.entries o) := by
  show (c.schemas.filter fun s => !s.isInternal).flatMap (Schema.customTypes o) = _
  rw [flatMap_filter_eq]
  congr 1
  funext s
  cases h : s.isInternal <;> simp [Schema.entries, h]

end EntityModel
