import EntityModel.Proofs.BoundQualifier
import EntityModel.Proofs.StableSort

/-!
# The imports of a fixture

The imports of a fixture are collected by path: the driver's, those of its connection, that of the entity's
type and in the end that of the key's type, where a later import takes the place of an earlier one with the
same path. So the key's type is always imported as it is written. The entity's type is too, unless the
key's type is imported from the same path under another local name (`importsOf_binds_types`); then the
qualifier of the entity's type may be left without an import (`importsOf_lacks_entity_import`).
-/

namespace EntityModel

variable {lib : Libraries}

/-! ## Adding to collected imports -/

namespace ImportSet

theorem mem_add_iff {s : ImportSet} (h : Ordered s.entries) {i j : Import} (hp : i.path ≠ "") :
    j ∈ (s.add i).toList ↔ j = i ∨ j ∈ s.toList ∧ j.path ≠ i.path := by
  rw [add, if_neg hp]
  exact mem_insertByPath_iff h

theorem ordered_addType {s : ImportSet} (h : Ordered s.entries) (t : TargetType) :
    Ordered (s.addType t).entries := by
  unfold addType
  split
  · exact ordered_add h _
  · exact h

theorem ordered_addConnection {s : ImportSet} (h : Ordered s.entries) :
    Ordered s.addConnection.entries := by
  unfold addConnection
  split
  · exact ordered_add h _
  · exact h

theorem ordered_empty (driver : Driver) : Ordered (empty driver).entries := List.Pairwise.nil

/-- The imports that every fixture starts from. -/
theorem ordered_base (driver : Driver) : Ordered (empty driver).addDriver.addConnection.entries :=
  ordered_addConnection (ordered_add (ordered_empty driver) _)

theorem addType_of_origin {s : ImportSet} {t : TargetType} {i : Import} (h : t.origin = some i) :
    s.addType t = s.add i := by
  rw [addType, h]

theorem addType_of_no_origin {s : ImportSet} {t : TargetType} (h : t.origin = none) :
    s.addType t = s := by
  rw [addType, h]

end ImportSet

/-! ## The types of an entity among the imports -/

/-- What a type is imported from is among the imports, and is known there under the qualifier of the type. -/
def TargetType.ImportedIn (imports : List Import) (t : TargetType) : Prop :=
  ∀ i, t.origin = some i → i ∈ imports ∧ t.qualifier = i.boundName

/-- The type of the key is imported from the path of the entity's type, under another local name. -/
def Entity.KeyTakesPath (e : Entity) : Prop :=
  ∃ key i j, e.primaryKey? = some key ∧ e.type.origin = some i ∧ key.type.origin = some j ∧
    j.path = i.path ∧ j.localName ≠ i.localName

theorem importedIn_of_no_origin {imports : List Import} {t : TargetType} (h : t.origin = none) :
    t.ImportedIn imports := by
  intro i hi
  rw [h] at hi
  cases hi

theorem importedIn_iff_mem {imports : List Import} {t : TargetType} {i : Import} (hb : t.Bound)
    (h : t.origin = some i) : t.ImportedIn imports ↔ i ∈ imports := by
  constructor
  · intro hi
    exact (hi i h).1
  · intro hm j hj
    cases h.symm.trans hj
    exact ⟨hm, (hb i h).2⟩

/-- An import is there right after it has been added. -/
theorem importedIn_addType {s : ImportSet} (hs : ImportSet.Ordered s.entries) {t : TargetType}
    (hb : t.Bound) : t.ImportedIn (s.addType t).toList := by
  cases ho : t.origin with
  | none => exact importedIn_of_no_origin ho
  | some i =>
    rw [importedIn_iff_mem hb ho, ImportSet.addType_of_origin ho, ImportSet.mem_add_iff hs (hb i ho).1]
    exact .inl rfl

/-- An import of another type leaves it there, unless both have one path and different local names. -/
theorem importedIn_addType_iff {s : ImportSet} (hs : ImportSet.Ordered s.entries) {t u : TargetType}
    {i j : Import} (ht : t.Bound) (hu : u.Bound) (hti : t.origin = some i) (huj : u.origin = some j)
    (there : i ∈ s.toList) :
    t.ImportedIn (s.addType u).toList ↔ ¬ (j.path = i.path ∧ j.localName ≠ i.localName) := by
  rw [importedIn_iff_mem ht hti, ImportSet.addType_of_origin huj, ImportSet.mem_add_iff hs (hu j huj).1]
  obtain ⟨path, localName⟩ := i
  obtain ⟨path', localName'⟩ := j
  simp only [Import.mk.injEq]
  constructor
  · rintro (⟨-, rfl⟩ | ⟨-, hne⟩)
    · exact fun h => h.2 rfl
    · exact fun h => hne h.1.symm
  · intro h
    by_cases hp : path = path'
    · exact .inl ⟨hp, Decidable.byContradiction fun hl => h ⟨hp.symm, fun h' => hl h'.symm⟩⟩
    · exact .inr ⟨there, hp⟩

namespace Entity

variable {e : Entity} {base : ImportSet}

theorem keyTakesPath_iff {key : Field} {i j : Import} (hk : e.primaryKey? = some key)
    (hi : e.type.origin = some i) (hj : key.type.origin = some j) :
    e.KeyTakesPath ↔ j.path = i.path ∧ j.localName ≠ i.localName := by
  constructor
  · rintro ⟨key', i', j', hk', hi', hj', h⟩
    cases hk.symm.trans hk'
    cases hi.symm.trans hi'
    cases hj.symm.trans hj'
    exact h
  · exact fun h => ⟨key, i, j, hk, hi, hj, h⟩

theorem importedIn_imports_of_key (hs : ImportSet.Ordered base.entries) {key : Field}
    (hk : e.primaryKey? = some key) (hb : key.type.Bound) :
    key.type.ImportedIn (e.imports base).toList := by
  simp only [imports, hk]
  exact importedIn_addType (ImportSet.ordered_addType hs e.type) hb

theorem importedIn_imports_iff (hs : ImportSet.Ordered base.entries) (hb : e.type.Bound)
    (hkey : ∀ key, e.primaryKey? = some key → key.type.Bound) :
    e.type.ImportedIn (e.imports base).toList ↔ ¬ e.KeyTakesPath := by
  have there : e.type.ImportedIn (base.addType e.type).toList := importedIn_addType hs hb
  cases hk : e.primaryKey? with
  | none =>
    simp only [imports, hk]
    refine iff_of_true there ?_
    rintro ⟨key, _, _, hk', -⟩
    cases hk.symm.trans hk'
  | some key =>
    simp only [imports, hk]
    cases hi : e.type.origin with
    | none =>
      refine iff_of_true (importedIn_of_no_origin hi) ?_
      rintro ⟨_, _, _, -, hi', -⟩
      cases hi.symm.trans hi'
    | some i =>
      cases hj : key.type.origin with
      | none =>
        rw [ImportSet.addType_of_no_origin hj]
        refine iff_of_true there ?_
        rintro ⟨key', _, _, hk', -, hj', -⟩
        cases hk.symm.trans hk'
        cases hj.symm.trans hj'
      | some j =>
        rw [keyTakesPath_iff hk hi hj]
        have hordered := ImportSet.ordered_addType hs e.type
        exact importedIn_addType_iff hordered hb (hkey key hk) hi hj (there i hi).1

end Entity

/-! ## The entities of a generation -/

/-- A generation is that of the request's catalog under options that its documents settle to. -/
theorem exists_options_of_ofRequest {r : Request} {g : Generation} (h : Generation.ofRequest lib r = .ok g) :
    ∃ o, Options.ofRequest lib r = .ok o ∧ g = .ofCatalog o r.catalog := by
  obtain ⟨o, ho, h⟩ := bind_eq_ok_iff.1 h
  cases h
  exact ⟨o, ho, rfl⟩

/-- The key of an entity is the field of a column. -/
theorem exists_column_of_primaryKey? {o : Options} {c : Catalog} {e : Entity} {key : Field}
    (he : e ∈ (Generation.ofCatalog o c).entities) (hk : e.primaryKey? = some key) :
    ∃ column, key.type = (o.resolve (.ofCatalog o c) column).type := by
  obtain ⟨t, -, rfl⟩ := exists_table_of_mem_entities he
  obtain ⟨column, -, rfl⟩ := List.mem_map.1 (List.mem_of_find?_eq_some hk)
  exact ⟨column, rfl⟩

/-- **Imports of a fixture.** The type of the key is imported as it is written, and so is the type of the
entity, unless the type of the key is imported from the same path under another local name. -/
theorem importsOf_binds_types {r : Request} {g : Generation} {e : Entity}
    (generated : Generation.ofRequest lib r = .ok g) (mem : e ∈ g.entities) :
    (∀ key, e.primaryKey? = some key → key.type.ImportedIn (g.importsOf e)) ∧
      (e.type.ImportedIn (g.importsOf e) ↔ ¬ e.KeyTakesPath) := by
  obtain ⟨o, ho, rfl⟩ := exists_options_of_ofRequest generated
  obtain ⟨_, _, _, _, hs⟩ := settled_of_ofRequest ho
  have hkey : ∀ key, e.primaryKey? = some key → key.type.Bound := by
    intro key hk
    obtain ⟨column, hcolumn⟩ := exists_column_of_primaryKey? mem hk
    rw [hcolumn]
    exact bound_resolve hs r.catalog column
  have hbase := ImportSet.ordered_base (Generation.ofCatalog o r.catalog).driver
  refine ⟨fun key hk => Entity.importedIn_imports_of_key hbase hk (hkey key hk), ?_⟩
  exact Entity.importedIn_imports_iff hbase (bound_of_mem_entities mem) hkey

/-- The users. -/
def usersTable : Table where
  rel := { name := "users" }
  columns := [{ name := "id", notNull := true, type := { name := "uuid" } }]

/-- A request for the entity of the users, whose key has a type of its own in the package of the generated
code. The package is known to that type under a local name, unless the name is empty. -/
def usersRequest (localName : String) : Request where
  engineName := "postgresql"
  catalog := { schemas := [{ name := "public", tables := [usersTable] }] }
  options := .object [("package", .string "fixtures"), ("model_import", .string "example.com/app/db"),
    ("overrides", .array [.object [("column", .string "users.id"),
      ("go_type", .object [("import", .string "example.com/app/db"), ("package", .string localName),
        ("type", .string "UserID")])]])]

/-- What the options of this request settle to. -/
def usersOptions (localName qualifier : String) : Options :=
  { Options.new .postgresql "fixtures" with
    modelImport := "example.com/app/db"
    overrides := [{
      selector := .named ⟨none, ⟨"public"⟩, ⟨"users"⟩⟩ ⟨"id"⟩
      type := (TargetType.qualified qualifier "UserID").withOrigin
        (.aliased "example.com/app/db" localName) }] }

/-- The entity of the users. -/
def usersEntity (localName qualifier : String) : Entity :=
  let o := usersOptions localName qualifier
  o.entityOf (.ofCatalog o (usersRequest localName).catalog) (usersTable.qualify "public")

theorem entities_users (localName qualifier : String) :
    (Generation.ofCatalog (usersOptions localName qualifier) (usersRequest localName).catalog).entities =
      [usersEntity localName qualifier] := by
  rw [Generation.ofCatalog_eq]
  exact Generation.sortEntities_singleton _

theorem mem_entities_users (localName qualifier : String) :
    usersEntity localName qualifier ∈
      (Generation.ofCatalog (usersOptions localName qualifier) (usersRequest localName).catalog).entities := by
  rw [entities_users]
  exact List.mem_singleton_self _

/-- Without a local name the path is the same import for both types. -/
theorem importsOf_binds_types_users :
    ∃ g, Generation.ofRequest .standard (usersRequest "") = .ok g ∧ usersEntity "" "db" ∈ g.entities ∧
      (usersEntity "" "db").type.ImportedIn (g.importsOf (usersEntity "" "db")) ∧
      ∃ key, (usersEntity "" "db").primaryKey? = some key ∧
        key.type.ImportedIn (g.importsOf (usersEntity "" "db")) := by
  have accepted : Options.ofRequest .standard (usersRequest "") = .ok (usersOptions "" "db") := by decide +kernel
  have generated := Generation.ofRequest_of_options accepted
  have mem := mem_entities_users "" "db"
  obtain ⟨hkey, hentity⟩ := importsOf_binds_types generated mem
  refine ⟨_, generated, mem, hentity.2 ?_, _, rfl, hkey _ rfl⟩
  rintro ⟨key, i, j, hk, hi, hj, -, hne⟩
  cases hk
  have hi' : (usersEntity "" "db").type.origin = some ⟨"example.com/app/db", none⟩ := by decide +kernel
  cases hi.symm.trans hi'
  cases hj
  exact hne rfl

/-- With a local name for the type of the key, no import binds the qualifier of the entity's type. -/
theorem importsOf_lacks_entity_import :
    ∃ g i, Generation.ofRequest .standard (usersRequest "model") = .ok g ∧
      usersEntity "model" "model" ∈ g.entities ∧
      (usersEntity "model" "model").type.origin = some i ∧
      i ∉ g.importsOf (usersEntity "model" "model") ∧
      ∀ j ∈ g.importsOf (usersEntity "model" "model"),
        j.boundName ≠ (usersEntity "model" "model").type.qualifier := by
  have accepted : Options.ofRequest .standard (usersRequest "model") = .ok (usersOptions "model" "model") := by
    decide +kernel
  exact ⟨_, ⟨"example.com/app/db", none⟩, Generation.ofRequest_of_options accepted,
    mem_entities_users "model" "model", by decide +kernel, by decide +kernel, by decide +kernel⟩

end EntityModel
