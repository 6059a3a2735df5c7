import EntityModel.Options.Document
import EntityModel.Options.PrimaryKey
import EntityModel.Override.Basic

/-!
# Options

The settled options of a run: every document merged, every default filled in, every rule parsed.
-/

namespace EntityModel

open Text

/-- The settled options of a run. -/
structure Options where
  engine : Engine
  package : String
  out : String
  defaultSchema : String
  clientPackage : ClientPackage
  driver : Driver
  emitPointers : Bool
  exactTableNames : Bool
  /-- The rules of the project, then those of the run. -/
  overrides : List Override
  renames : List (String × String)
  /-- Tables whose names are not put into the singular. -/
  uninflected : List String
  /-- Lower-case words, sorted, each once. -/
  initialisms : List String
  primaryKeys : List PrimaryKey
  modelImport : String
  defaultValues : List DefaultValue
  deriving DecidableEq, Repr

namespace Options

/-- Put a word at its place in a sorted list, unless it is there. -/
def insertWord (word : String) : List String → List String
  | [] => [word]
  | w :: rest =>
    if word < w then word :: w :: rest
    else if word = w then w :: rest
    else w :: insertWord word rest

/-- Words in lower case, sorted, each once. -/
def initialismsOf (words : List String) : List String :=
  (words.map fun w => String.ofList (lower w.toList)).foldl (fun kept w => insertWord w kept) []

/-- The initialisms where none are given. -/
def defaultInitialisms : List String := ["id"]

/-- The options for an engine and a package, everything else by default. -/
def new (engine : Engine) (package : String) : Options where
  engine
  package
  out := ""
  defaultSchema := engine.defaultSchema
  clientPackage := .standard
  driver := match engine with | .mysql => .goMysql | .postgresql | .sqlite => .libPq
  emitPointers := false
  exactTableNames := false
  overrides := []
  renames := []
  uninflected := []
  initialisms := defaultInitialisms
  primaryKeys := []
  modelImport := ""
  defaultValues := []

/-- The options with another client package and its driver. -/
def withClientPackage (o : Options) (package : ClientPackage) : Except Error Options := do
  let driver ← Driver.resolve package o.engine
  return { o with clientPackage := package, driver }

/-- The primary key column of a table. -/
def primaryKeyOf (o : Options) (table : Identifier) : String :=
  match o.primaryKeys.find? (·.isFor table o.defaultSchema) with
  | some key => key.column
  | none => PrimaryKey.defaultColumn

/-- The rule that counts for a column. -/
def override? (o : Options) (column : Column) : Option Override :=
  Override.find? o.overrides o.engine o.defaultSchema column

/-- The type table of a run. -/
def typeTable (o : Options) : TypeTable := .of o.engine o.driver o.emitPointers

end Options

end EntityModel
