import EntityModel.Json.Basic
import EntityModel.Document.JsonText
import EntityModel.Override.Spec
import EntityModel.Text.Blank

/-!
# Options as written

The options document of a run and the one of the whole project, before anything in them is looked at. A
document may be absent, blank, JSON text, or a value in place.
-/

namespace EntityModel

open Document

/-- A value that fixtures of a type start from, handed on as it is. -/
structure DefaultValue where
  type : String := ""
  value : String := ""
  importPath : String := ""
  deriving DecidableEq, Repr, Inhabited

/-- The options of one run. -/
structure OptionsDocument where
  package : String := ""
  out : String := ""
  defaultSchema : Option String := none
  clientPackage : String := ""
  emitPointers : Bool := false
  exactTableNames : Bool := false
  overrides : List OverrideSpec := []
  renames : List (String × String) := []
  uninflected : List String := []
  initialisms : Option (List String) := none
  primaryKeys : List String := []
  modelImport : String := ""
  defaultValues : List DefaultValue := []
  deriving DecidableEq, Repr, Inhabited

/-- The options of the whole project: only overrides and renames apply to all runs. -/
structure GlobalOptionsDocument where
  overrides : List OverrideSpec := []
  renames : List (String × String) := []
  deriving DecidableEq, Repr, Inhabited

/-- A default value from a document. -/
def DefaultValue.ofNode (n : Node) : Except Fault DefaultValue := do
  let fields ← n.record ["type", "value", "import"]
  let type ← fields.text "type"
  let value ← fields.text "value"
  let importPath ← fields.text "import"
  return { type, value, importPath }

/-- The fields of the options document in their order. -/
def OptionsDocument.fieldNames : List String :=
  ["package", "out", "default_schema", "sql_package", "emit_pointers_for_null_types",
   "emit_exact_table_names", "overrides", "rename", "inflection_exclude_table_names", "initialisms",
   "primary_keys_columns", "model_import", "default_type_values"]

/-- The options of one run from a document. -/
def OptionsDocument.ofNode (n : Node) : Except Fault OptionsDocument := do
  let fields ← n.record OptionsDocument.fieldNames
  let package ← fields.text "package"
  let out ← fields.text "out"
  let defaultSchema ← fields.optional "default_schema" Node.text
  let clientPackage ← fields.text "sql_package"
  let emitPointers ← fields.flag "emit_pointers_for_null_types"
  let exactTableNames ← fields.flag "emit_exact_table_names"
  let overrides ← fields.list "overrides" OverrideSpec.ofNode
  let renames ← fields.get "rename" [] Node.texts
  let uninflected ← fields.list "inflection_exclude_table_names" Node.text
  let initialisms ← fields.optional "initialisms" (Node.list Node.text)
  let primaryKeys ← fields.list "primary_keys_columns" Node.text
  let modelImport ← fields.text "model_import"
  let defaultValues ← fields.list "default_type_values" DefaultValue.ofNode
  return { package, out, defaultSchema, clientPackage, emitPointers, exactTableNames, overrides,
           renames, uninflected, initialisms, primaryKeys, modelImport, defaultValues }

/-- The options of the whole project from a document. -/
def GlobalOptionsDocument.ofNode (n : Node) : Except Fault GlobalOptionsDocument := do
  let fields ← n.record ["overrides", "rename"]
  let overrides ← fields.list "overrides" OverrideSpec.ofNode
  let renames ← fields.get "rename" [] Node.texts
  return { overrides, renames }

/-- A document read from what the host hands over for it, with a default where it is absent or blank. -/
def readOptions {α : Type} (default : α) (read : Node → Except Fault α) : Json → Except Fault α
  | .null => .ok default
  | .string text =>
    if Text.trim text.toList = [] then .ok default
    else
      match JsonText.read? text with
      | some n => read n
      | none => .error .malformed
  | v => read (Node.ofJson v)

end EntityModel
