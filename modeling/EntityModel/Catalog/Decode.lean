import EntityModel.Catalog.Basic
import EntityModel.Document.Decode

/-!
# Catalogs from documents

Each part of a catalog is a record whose fields may all be absent.
-/

namespace EntityModel

open Document

/-- An identifier from a document. -/
def Identifier.ofNode (n : Node) : Except Fault Identifier := do
  let fields ← n.record ["catalog", "schema", "name"]
  let catalog ← fields.text "catalog"
  let schema ← fields.text "schema"
  let name ← fields.text "name"
  return { catalog, schema, name }

/-- The fields of a column in their order. -/
def Column.fieldNames : List String :=
  ["name", "original_name", "not_null", "is_array", "array_dims", "unsigned", "is_sqlc_slice", "length",
   "comment", "table", "type"]

/-- A column from a document. -/
def Column.ofNode (n : Node) : Except Fault Column := do
  let fields ← n.record Column.fieldNames
  let name ← fields.text "name"
  let unaliasedName ← fields.text "original_name"
  let notNull ← fields.flag "not_null"
  let isArray ← fields.flag "is_array"
  let arrayDims ← fields.get "array_dims" 0 Node.word
  let unsigned ← fields.flag "unsigned"
  let isSlice ← fields.flag "is_sqlc_slice"
  let length ← fields.get "length" 0 Node.signedWord
  let comment ← fields.text "comment"
  let table ← fields.optional "table" Identifier.ofNode
  let type ← fields.get "type" {} Identifier.ofNode
  return { name, unaliasedName, notNull, isArray, arrayDims, unsigned, isSlice, length, comment, table,
           type }

/-- A table from a document. -/
def Table.ofNode (n : Node) : Except Fault Table := do
  let fields ← n.record ["rel", "columns", "comment"]
  let rel ← fields.get "rel" {} Identifier.ofNode
  let columns ← fields.list "columns" Column.ofNode
  let comment ← fields.text "comment"
  return { rel, columns, comment }

/-- An enum type from a document. -/
def EnumType.ofNode (n : Node) : Except Fault EnumType := do
  let fields ← n.record ["name", "vals", "comment"]
  let name ← fields.text "name"
  let vals ← fields.list "vals" Node.text
  let comment ← fields.text "comment"
  return { name, vals, comment }

/-- A composite type from a document. -/
def CompositeType.ofNode (n : Node) : Except Fault CompositeType := do
  let fields ← n.record ["name", "comment"]
  let name ← fields.text "name"
  let comment ← fields.text "comment"
  return { name, comment }

/-- A schema from a document. -/
def Schema.ofNode (n : Node) : Except Fault Schema := do
  let fields ← n.record ["name", "comment", "tables", "enums", "composite_types"]
  let name ← fields.text "name"
  let comment ← fields.text "comment"
  let tables ← fields.list "tables" Table.ofNode
  let enums ← fields.list "enums" EnumType.ofNode
  let compositeTypes ← fields.list "composite_types" CompositeType.ofNode
  return { name, comment, tables, enums, compositeTypes }

/-- A catalog from a document. -/
def Catalog.ofNode (n : Node) : Except Fault Catalog := do
  let fields ← n.record ["name", "comment", "default_schema", "schemas"]
  let name ← fields.text "name"
  let comment ← fields.text "comment"
  let defaultSchema ← fields.text "default_schema"
  let schemas ← fields.list "schemas" Schema.ofNode
  return { name, comment, defaultSchema, schemas }

end EntityModel
