import EntityModel.Dialect.TypeTable
import EntityModel.Error
import EntityModel.Libraries
import EntityModel.Override.Pattern
import EntityModel.Override.Spec
import EntityModel.TargetType.Compact

/-!
# Overrides

A rule that forces the type of some columns: those whose table and name match patterns, or those of a SQL
type with a given nullability and sign. Of the rules that apply to a column, those by name come before
those by type, and within each group the first one counts.
-/

namespace EntityModel

open Text

/-- A pattern that the engine for expressions takes, or the error that it does not. -/
def Pattern.check (lib : Libraries) (p : Pattern) : Except Error Unit :=
  match lib.compile p.expression with
  | .ok _ => .ok ()
  | .error cause => .error (.pattern p.source cause)

/-- Patterns for the qualified name of a table. -/
structure TablePattern where
  catalog : Option Pattern
  schema : Pattern
  name : Pattern
  deriving DecidableEq, Repr

namespace TablePattern

/-- Whether a table matches; an unqualified table lies in the default schema. -/
def isMatch (p : TablePattern) (table : Identifier) (defaultSchema : String) : Bool :=
  (match p.catalog with
    | some catalog => catalog.isMatch table.catalog
    | none => true) &&
    p.schema.isMatch (table.schemaOr defaultSchema) && p.name.isMatch table.name

end TablePattern

/-- The columns that a rule applies to. -/
inductive ColumnSelector where
  | named (table : TablePattern) (column : Pattern)
  /-- The columns of a normalized type name, nullable or not, unsigned or not. -/
  | typed (dbType : String) (nullable isUnsigned : Bool)
  deriving DecidableEq, Repr

namespace ColumnSelector

/-- The columns that a dotted specifier names: a table and a column, with a schema and a catalog in front
if wanted. Without a schema the default one is taken. -/
def named? (spec defaultSchema : String) : Option ColumnSelector :=
  match (splitOn '.' spec.toList).map String.ofList with
  | [table, column] => some (.named ⟨none, ⟨defaultSchema⟩, ⟨table⟩⟩ ⟨column⟩)
  | [schema, table, column] => some (.named ⟨none, ⟨schema⟩, ⟨table⟩⟩ ⟨column⟩)
  | [catalog, schema, table, column] => some (.named ⟨some ⟨catalog⟩, ⟨schema⟩, ⟨table⟩⟩ ⟨column⟩)
  | _ => none

/-- The patterns of a selector, from the catalog to the column. -/
def patterns : ColumnSelector → List Pattern
  | named table column => table.catalog.toList ++ [table.schema, table.name, column]
  | typed _ _ _ => []

/-- The columns that a dotted specifier names, if all its patterns can be compiled. -/
def ofColumnSpec (lib : Libraries) (spec defaultSchema : String) : Except Error ColumnSelector :=
  match named? spec defaultSchema with
  | none => .error (.config (.overrideColumnParts spec))
  | some selector => do
    let _ ← selector.patterns.mapM (·.check lib)
    return selector

/-- The columns that an entry speaks of: it has to name either columns or a type. -/
def ofSpec (lib : Libraries) (spec : OverrideSpec) (engine : Engine) (defaultSchema : String) :
    Except Error ColumnSelector :=
  if spec.column = "" then
    if spec.dbType = "" then .error (.config .overrideOfNothing)
    else .ok (.typed (engine.normalizeTypeName spec.dbType) spec.nullable spec.unsigned)
  else if spec.dbType = "" then ofColumnSpec lib spec.column defaultSchema
  else .error (.config (.overrideOfColumnAndType spec.column spec.dbType))

/-- Whether a column with the given normalized type name is meant. -/
def isMatch (s : ColumnSelector) (column : Column) (dataType defaultSchema : String) : Bool :=
  match s with
  | named table name =>
    name.isMatch column.matchName &&
      match column.table with
      | some t => table.isMatch t defaultSchema
      | none => false
  | typed dbType nullable isUnsigned =>
    dbType == dataType && nullable != column.effectiveNotNull && isUnsigned == column.unsigned

end ColumnSelector

/-- A type from its compact form, or the error that there is none. -/
def TargetType.parse (s : String) : Except Error TargetType :=
  match TargetType.parse? s with
  | some type => .ok type
  | none => .error (.config (.invalidType s))

namespace TypeParts

/-- The type without pointer and slice: qualified by the package of its import, or read from its compact
form where no import is given. -/
def named (d : TypeParts) : Except Error TargetType :=
  if d.importPath = "" then TargetType.parse d.name
  else
    .ok ((TargetType.qualified
      (if d.package = "" then PackagePath.name d.importPath else d.package) d.name).withOrigin
        (.aliased d.importPath d.package))

/-- The forced type. A package needs an import that it belongs to. -/
def type (d : TypeParts) : Except Error TargetType :=
  if d.name = "" then .error (.config .overrideTypeNameMissing)
  else if d.importPath = "" ∧ d.package ≠ "" then
    .error (.config (.overridePackageWithoutImport d.package))
  else do
    let named ← d.named
    let pointed := if d.pointer then named.toPointer else named
    return if d.slice then pointed.slice else pointed

end TypeParts

namespace TypeSpec

/-- The forced type. -/
def type : TypeSpec → Except Error TargetType
  | compact text =>
    if trim text.toList = [] then .error (.config .overrideTypeMissing) else TargetType.parse text
  | parts d => d.type

end TypeSpec

/-- A rule: the columns it applies to and the type it gives them. -/
structure Override where
  selector : ColumnSelector
  type : TargetType
  deriving DecidableEq, Repr

namespace Override

/-- The rule that an entry states. -/
def ofSpec (lib : Libraries) (spec : OverrideSpec) (engine : Engine) (defaultSchema : String) :
    Except Error Override := do
  let selector ← ColumnSelector.ofSpec lib spec engine defaultSchema
  let type ← spec.type.type
  return { selector, type }

/-- Whether the rule selects columns by name. -/
def isNamed (rule : Override) : Bool :=
  match rule.selector with
  | .named _ _ => true
  | .typed _ _ _ => false

/-- Whether the rule applies to a column with the given normalized type name. -/
def isMatch (rule : Override) (column : Column) (dataType defaultSchema : String) : Bool :=
  rule.selector.isMatch column dataType defaultSchema

/-- The rule that counts for a column: the first by name that applies, else the first by type. -/
def find? (rules : List Override) (engine : Engine) (defaultSchema : String) (column : Column) :
    Option Override :=
  let dataType := engine.normalizeTypeName column.dataType
  (rules.filter (·.isNamed) ++ rules.filter (!·.isNamed)).find? (·.isMatch column dataType defaultSchema)

end Override

end EntityModel
