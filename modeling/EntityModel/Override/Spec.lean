import EntityModel.Document.Decode

/-!
# Overrides as written

An entry of the `overrides` list of an options document, before anything in it is looked at.
-/

namespace EntityModel

open Document

/-- A forced type written in parts. -/
structure TypeParts where
  importPath : String := ""
  package : String := ""
  name : String := ""
  pointer : Bool := false
  slice : Bool := false
  deriving DecidableEq, Repr, Inhabited

/-- A forced type: in compact form, or in parts. -/
inductive TypeSpec where
  | compact (text : String)
  | parts (parts : TypeParts)
  deriving DecidableEq, Repr

instance : Inhabited TypeSpec := ⟨.compact ""⟩

/-- An entry of the list of overrides. -/
structure OverrideSpec where
  dbType : String := ""
  column : String := ""
  type : TypeSpec := .compact ""
  nullable : Bool := false
  unsigned : Bool := false
  deriving DecidableEq, Repr, Inhabited

/-- A forced type in parts from a document. -/
def TypeParts.ofNode (n : Node) : Except Fault TypeParts := do
  let fields ← n.record ["import", "package", "type", "pointer", "slice"]
  let importPath ← fields.text "import"
  let package ← fields.text "package"
  let name ← fields.text "type"
  let pointer ← fields.flag "pointer"
  let slice ← fields.flag "slice"
  return { importPath, package, name, pointer, slice }

/-- A forced type from a document. What is not a text has to be usable to the last part, known or not,
before it is taken apart. -/
def TypeSpec.ofNode (n : Node) : Except Fault TypeSpec :=
  match n with
  | .string text => .ok (.compact text)
  | _ => do
    let _ ← n.value
    let parts ← TypeParts.ofNode n
    return .parts parts

/-- An entry of the list of overrides from a document. -/
def OverrideSpec.ofNode (n : Node) : Except Fault OverrideSpec := do
  let fields ← n.record ["db_type", "column", "go_type", "nullable", "unsigned"]
  let dbType ← fields.text "db_type"
  let column ← fields.text "column"
  let type ← fields.get "go_type" (.compact "") TypeSpec.ofNode
  let nullable ← fields.flag "nullable"
  let unsigned ← fields.flag "unsigned"
  return { dbType, column, type, nullable, unsigned }

end EntityModel
