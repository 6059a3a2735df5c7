import EntityModel.Options.Basic
import EntityModel.Request.Basic

/-!
# Settling the options

From the documents of the run and of the project to settled options. The steps follow one order, and the
first that fails gives the error: both documents are read, the package, the client package, the overrides
(the project's first), the primary keys and the driver are settled, and the result is validated. Of several empty
renames the first visited is reported, which is any of them.
-/

namespace EntityModel.Options

open Text

/-- The last component of an output directory, if it names one. -/
def packageOfDirectory? (out : String) : Option String :=
  let path := (out.toList.reverse.dropWhile (· = '/')).reverse
  let last := match splitAtLast '/' path with | some (_, last) => last | none => path
  if last = [] ∨ last = ['.'] ∨ last = ['.', '.'] then none else some (String.ofList last)

/-- The package of a run: as given, or named after the output directory. -/
def packageOf (d : OptionsDocument) : Except Error String :=
  if d.package = "" then
    match packageOfDirectory? d.out with
    | some package => .ok package
    | none => .error (.config .noDirectoryForPackage)
  else .ok d.package

/-- The renames of a run with those of the project, which come first for a name that both have. -/
def mergeRenames (ofRun ofProject : List (String × String)) : List (String × String) :=
  ofProject ++ ofRun.filter fun r => (ofProject.lookup r.1).isNone

/-- What a package name may not hold. -/
def isForeignToPackage (c : Char) : Bool := isBlank c || c == '/' || c == '.'

/-- The checks on settled options, in their order. -/
def validate (lib : Libraries) (o : Options) : Except Error Unit :=
  if o.package = "" then .error (.config .packageMissing)
  else if o.package.toList.any isForeignToPackage then
    .error (.config (.packageNotIdentifier o.package))
  else if "" ∈ o.initialisms then .error (.config .emptyInitialism)
  else
    match (lib.order.visit o.renames).find? fun r => r.1 = "" || r.2 = "" with
    | some (source, target) => .error (.config (.emptyRename source target))
    | none => .ok ()

/-- Options that passed the checks. -/
def validated (lib : Libraries) (o : Options) : Except Error Options := do
  o.validate lib
  return o

/-- The options that two documents give before they are checked. -/
def settle (lib : Libraries) (engine : Engine) (fallbackSchema : String) (d : OptionsDocument)
    (g : GlobalOptionsDocument) : Except Error Options := do
  let package ← packageOf d
  let clientPackage ← ClientPackage.ofName d.clientPackage
  let defaultSchema := d.defaultSchema.getD fallbackSchema
  let overrides ← (g.overrides ++ d.overrides).mapM fun spec =>
    Override.ofSpec lib spec engine defaultSchema
  let primaryKeys ← d.primaryKeys.mapM PrimaryKey.ofEntry
  let driver ← Driver.resolve clientPackage engine
  return {
    engine, package, defaultSchema, clientPackage, driver, overrides, primaryKeys
    out := d.out
    emitPointers := d.emitPointers
    exactTableNames := d.exactTableNames
    renames := mergeRenames d.renames g.renames
    uninflected := d.uninflected
    initialisms := match d.initialisms with
      | some words => initialismsOf words
      | none => defaultInitialisms
    modelImport := d.modelImport
    defaultValues := d.defaultValues }

/-- The document of a run. -/
def readRun (v : Json) : Except Error OptionsDocument :=
  (readOptions {} OptionsDocument.ofNode v).mapError fun fault => .config (.malformedOptions fault)

/-- The document of a project. -/
def readProject (v : Json) : Except Error GlobalOptionsDocument :=
  (readOptions {} GlobalOptionsDocument.ofNode v).mapError fun fault =>
    .config (.malformedGlobalOptions fault)

/-- Settled and checked options from both documents, with the schema of unqualified objects where the
document names none. -/
def ofDocumentsIn (lib : Libraries) (engine : Engine) (fallbackSchema : String) (run project : Json) :
    Except Error Options := do
  let d ← readRun run
  let g ← readProject project
  let o ← settle lib engine fallbackSchema d g
  o.validated lib

/-- Settled and checked options from both documents. -/
def ofDocuments (lib : Libraries) (engine : Engine) (run project : Json) : Except Error Options :=
  ofDocumentsIn lib engine engine.defaultSchema run project

/-- Settled and checked options of a request; its catalog may name the default schema. -/
def ofRequest (lib : Libraries) (r : Request) : Except Error Options := do
  let engine ← Engine.ofName r.engineName
  let fallbackSchema :=
    if r.catalog.defaultSchema = "" then engine.defaultSchema else r.catalog.defaultSchema
  ofDocumentsIn lib engine fallbackSchema r.options r.globalOptions

end EntityModel.Options
