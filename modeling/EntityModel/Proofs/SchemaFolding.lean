import EntityModel.Proofs.BoundQualifier
import EntityModel.Proofs.ExportedNames
import EntityModel.Proofs.Inflection
import EntityModel.Proofs.InternalSchemas

/-!
# Names folded with their schemas

A table outside the default schema is known by the name of its schema, an underscore and its own name. This name is
made singular and then turned into an identifier as a whole, and both respect the underscore: it is where the last
word is looked for (`singular_append`), and it separates words (`casedWords_append`).

Main statement: the type of such a table is named by the words of the schema followed by those of the singular of the
table's own name, with an underscore in front exactly if this starts with a digit (`entities_fold_schema`).
-/

namespace EntityModel

namespace Naming

open Text

/-! ## The underscore between schema and name -/

/-- The words of a raw name, cased and joined. -/
def casedWords (initialisms : List String) (raw : String) : String :=
  String.ofList (identifierBody initialisms raw.toList)

/-- An underscore in front of text that starts with a digit. -/
def guarded (text : String) : String :=
  if text.toList.head?.any isNumeric = true then "_" ++ text else text

/-- Only the part behind the schema is made singular. -/
theorem singular_append (schema name : String) :
    singular (schema ++ "_" ++ name) [] = schema ++ "_" ++ singular name [] := by
  have hchars := singularChars_append schema.toList name.toList
  rw [singular_nil, singular_nil, ← String.toList_inj]
  simpa using hchars

/-- The words before and after an underscore are cased on their own. -/
theorem casedWords_append (initialisms : List String) (schema name : String) :
    casedWords initialisms (schema ++ "_" ++ name) = casedWords initialisms schema ++ casedWords initialisms name := by
  have hsplit : (schema ++ "_" ++ name).toList = schema.toList ++ '_' :: name.toList := by simp
  rw [casedWords, hsplit, identifierBody_append_separator initialisms (by decide +kernel), String.ofList_append]
  rfl

/-! ## Identifiers -/

theorem ofList_guardDigit (cs : List Char) : String.ofList (guardDigit cs) = guarded (String.ofList cs) := by
  cases cs with
  | nil => rfl
  | cons c rest =>
    rw [guardDigit, guarded, String.toList_ofList, List.head?_cons, Option.any_some]
    split
    · rw [← String.toList_inj]
      simp
    · rfl

/-- The identifier of a name without an entry of its own is its words, guarded. -/
theorem identifier_of_not_mem {renames : List (String × String)} {raw : String} (plain : raw ∉ renames.map Prod.fst)
    (initialisms : List String) : identifier renames initialisms raw = guarded (casedWords initialisms raw) := by
  rw [← String.toList_inj, toList_identifier plain, casedWords, ← ofList_guardDigit]
  exact String.toList_ofList.symm

end Naming

namespace Options

variable {o : Options}

theorem flatName_of_ne {schema : String} (other : schema ≠ o.defaultSchema) (name : String) :
    o.flatName schema name = schema ++ "_" ++ name :=
  if_neg other

theorem entityName_of_not_mem (inflected : o.exactTableNames = false) {tableName : String}
    (kept : tableName ∉ o.uninflected) : o.entityName tableName = Naming.singular tableName [] := by
  rw [entityName, inflected, if_neg Bool.false_ne_true, Naming.singular, Naming.singular, if_neg kept,
    if_neg List.not_mem_nil]

/-- The entity of a table outside the default schema, with its names. -/
theorem entityOf_folds_schema (noImport : o.modelImport = "") (inflected : o.exactTableNames = false)
    (custom : CustomTypes) (t : Table) (other : t.rel.schema ≠ o.defaultSchema)
    (kept : t.rel.schema ++ "_" ++ t.rel.name ∉ o.uninflected)
    (plain : t.rel.schema ++ "_" ++ Naming.singular t.rel.name [] ∉ o.renames.map Prod.fst) :
    (o.entityOf custom t).tableName = t.rel.schema ++ "_" ++ t.rel.name ∧
      (o.entityOf custom t).type.base =
        Naming.guarded (Naming.casedWords o.initialisms t.rel.schema ++
          Naming.casedWords o.initialisms (Naming.singular t.rel.name [])) := by
  have hflat := flatName_of_ne other t.rel.name
  refine ⟨hflat, ?_⟩
  have hidentifier : o.identifier (o.entityName (o.flatName t.rel.schema t.rel.name)) =
      Naming.guarded (Naming.casedWords o.initialisms t.rel.schema ++
        Naming.casedWords o.initialisms (Naming.singular t.rel.name [])) := by
    rw [hflat, entityName_of_not_mem inflected kept, Naming.singular_append, identifier,
      Naming.identifier_of_not_mem plain, Naming.casedWords_append]
  show (modelType o.modelImport _).base = _
  rw [modelType, if_pos noImport]
  exact hidentifier

end Options

/-- **Schemas fold into names.** There is an entity for each table, and the type of one outside the default schema is
named by the words of the schema and those of the singular of the table's name, unless the options name this table or
this type. -/
theorem entities_fold_schema {o : Options} (noImport : o.modelImport = "") (inflected : o.exactTableNames = false)
    (c : Catalog) :
    ((Generation.ofCatalog o c).entities.map (·.table)).Perm (c.userTables.map (·.rel)) ∧
      ∀ e ∈ (Generation.ofCatalog o c).entities, e.table.schema ≠ o.defaultSchema →
        e.table.schema ++ "_" ++ e.table.name ∉ o.uninflected →
        e.table.schema ++ "_" ++ Naming.singular e.table.name [] ∉ o.renames.map Prod.fst →
          e.tableName = e.table.schema ++ "_" ++ e.table.name ∧
            e.type.base = Naming.guarded (Naming.casedWords o.initialisms e.table.schema ++
              Naming.casedWords o.initialisms (Naming.singular e.table.name [])) := by
  refine ⟨tables_perm_userTables o c, fun e he other kept plain => ?_⟩
  obtain ⟨t, -, rfl⟩ := exists_table_of_mem_entities he
  exact Options.entityOf_folds_schema noImport inflected _ t other kept plain

/-- A table of accounts in a schema that is named after a year. -/
def logsCatalog : Catalog where
  schemas := [{ name := "2024_logs", tables := [{ rel := { name := "account_ids" } }] }]

/-- A request for the entity of this table. -/
def logsRequest : Request where
  engineName := "postgresql"
  catalog := logsCatalog
  options := .object [("package", .string "fixtures")]

/-- The digit is kept off the start, and the initialism is found in the singular. -/
theorem entities_fold_schema_logs :
    Options.ofRequest .standard logsRequest = .ok (.new .postgresql "fixtures") ∧
      ∃ e ∈ (Generation.ofCatalog (.new .postgresql "fixtures") logsCatalog).entities,
        e.table = { schema := "2024_logs", name := "account_ids" } ∧
          e.tableName = "2024_logs_account_ids" ∧ e.type.base = "_2024LogsAccountID" := by
  obtain ⟨hperm, hfold⟩ := entities_fold_schema (o := .new .postgresql "fixtures") rfl rfl logsCatalog
  have hmem : ({ schema := "2024_logs", name := "account_ids" } : Identifier) ∈
      (Generation.ofCatalog (.new .postgresql "fixtures") logsCatalog).entities.map (·.table) :=
    hperm.mem_iff.2 (by decide)
  obtain ⟨e, he, htable⟩ := List.mem_map.1 hmem
  obtain ⟨hname, hbase⟩ := hfold e he (by rw [htable]; decide) (by rw [htable]; decide) (by rw [htable]; decide)
  refine ⟨rfl, e, he, htable, ?_, ?_⟩
  · rw [hname, htable]
    decide
  · rw [hbase, htable]
    decide +kernel

end EntityModel
