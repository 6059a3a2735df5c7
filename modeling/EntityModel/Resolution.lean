import EntityModel.CustomType
import EntityModel.Diagnostic
import EntityModel.Import.Default

/-!
# Resolving column types

The type of a column comes from the first source that answers: the override that counts for it, the type
table of the engine, the custom types of the catalog. Where none does it is the untyped placeholder, and a
diagnostic says why. The dimensions of native arrays stack on types from all sources but overrides, whose
types are taken as they are; a slice parameter adds a dimension to a type from any source.

Dimensions are counted in 32-bit words. `resolve` counts modulo the size of a word; `resolve?` checks its
additions and has no answer where one overflows, which stops the program.
-/

namespace EntityModel

/-- The type of a column with the report that there is none, if so. -/
structure Resolved where
  type : TargetType
  diagnostic : Option Diagnostic := none
  deriving DecidableEq, Repr

namespace TypeTable

/-- The wording of a report about a type name. -/
def gapMessage (table : TypeTable) (kind : TypeGap) (sqlType : String) : String :=
  match kind with
  | .unknownType => "unknown " ++ table.engine.name ++ " type: " ++ sqlType
  | .unsupportedForDriver =>
    table.engine.name ++ " type " ++ sqlType ++ " is not supported by driver " ++ table.driver.path

/-- The report about a column. -/
def report (table : TypeTable) (kind : TypeGap) (column : Column) : Diagnostic where
  kind
  table := column.tableName
  column := column.name
  sqlType := column.dataType
  message := table.gapMessage kind column.dataType

/-- A column whose type the table does not give: from the custom types, else untyped with a report. -/
def resolveGap (table : TypeTable) (custom : CustomTypes) (kind : TypeGap) (column : Column) : Resolved :=
  match custom.find? column column.effectiveNotNull with
  | some entry => ⟨entry.type, none⟩
  | none => ⟨.untyped, some (table.report kind column)⟩

/-- The type of a column from the table, the custom types or the placeholder. -/
def resolve (table : TypeTable) (custom : CustomTypes) (column : Column) : Resolved :=
  match table.lookup column with
  | .resolved type => ⟨type.withDefaultOrigin (Import.default? table.driver), none⟩
  | .unsupported => table.resolveGap custom .unsupportedForDriver column
  | .unknown => table.resolveGap custom .unknownType column

end TypeTable

namespace Column

/-- The dimensions of a native array on top of those of the element type. -/
def wrapArray (column : Column) (type : TargetType) : TargetType :=
  if column.isArray then type.withDepth (type.depth + max column.arrayDims 1) else type

/-- The dimensions of a native array on top of those of the element type, unless the sum overflows. -/
def wrapArray? (column : Column) (type : TargetType) : Option TargetType :=
  if column.isArray && !type.hasRoom (max column.arrayDims 1) then none else some (column.wrapArray type)

/-- The dimension of a slice parameter, unless the column is a native array already. -/
def wrapSlice (column : Column) (type : TargetType) : TargetType :=
  if column.isSlice && !column.isArray then type.slice else type

/-- The dimension of a slice parameter, unless it is one too many. -/
def wrapSlice? (column : Column) (type : TargetType) : Option TargetType :=
  if column.isSlice && !column.isArray then type.slice? else some type

end Column

namespace Options

/-- The type of a column before its import is looked up and the slice dimension is added. -/
def sourceType (o : Options) (custom : CustomTypes) (column : Column) : Resolved :=
  match o.override? column with
  | some rule => ⟨rule.type, none⟩
  | none =>
    let r := o.typeTable.resolve custom column
    { r with type := column.wrapArray r.type }

/-- The type of a column. -/
def resolve (o : Options) (custom : CustomTypes) (column : Column) : Resolved :=
  let r := o.sourceType custom column
  { r with type := column.wrapSlice (r.type.withDefaultOrigin (Import.default? o.driver)) }

/-- The type of a column as `sourceType` has it, unless its dimensions overflow. -/
def sourceType? (o : Options) (custom : CustomTypes) (column : Column) : Option Resolved :=
  match o.override? column with
  | some rule => some ⟨rule.type, none⟩
  | none =>
    let r := o.typeTable.resolve custom column
    (column.wrapArray? r.type).map fun type => { r with type }

/-- The type of a column, unless its dimensions overflow. -/
def resolve? (o : Options) (custom : CustomTypes) (column : Column) : Option Resolved := do
  let r ← o.sourceType? custom column
  let type ← column.wrapSlice? (r.type.withDefaultOrigin (Import.default? o.driver))
  return { r with type }

/-- The type of a column, and the reports made so far with the one that it adds. -/
def resolveOnto (o : Options) (custom : CustomTypes) (ds : Diagnostics) (column : Column) :
    TargetType × Diagnostics :=
  let r := o.resolve custom column
  (r.type, r.diagnostic.elim ds ds.record)

/-- The reports so far are only added to. -/
theorem resolveOnto_eq (o : Options) (custom : CustomTypes) (ds : Diagnostics) (column : Column) :
    o.resolveOnto custom ds column =
      ((o.resolve custom column).type, ds ++ (o.resolve custom column).diagnostic.toList) := by
  have hadd (report : Option Diagnostic) : report.elim ds ds.record = ds ++ report.toList := by
    cases report with
    | none => simp
    | some report => rfl
  exact Prod.ext rfl (hadd (o.resolve custom column).diagnostic)

end Options

end EntityModel
