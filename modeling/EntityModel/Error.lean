import EntityModel.Document.Fault
import EntityModel.Driver
import EntityModel.Text.Quoted

/-!
# Errors

Why a request is refused. Only the configuration and the files can be at fault: a column whose type is
not known is reported beside the result and refuses nothing. Each error has its message and the exit code
that the command line ends with.
-/

namespace EntityModel

open Document

/-- What is wrong with the configuration. -/
inductive ConfigError where
  | invalidType (spec : String)
  | driverNeedsPostgresql (package : ClientPackage) (engine : Engine)
  | malformedOptions (fault : Fault)
  | malformedGlobalOptions (fault : Fault)
  | noDirectoryForPackage
  | packageMissing
  | packageNotIdentifier (package : String)
  | emptyInitialism
  | emptyRename (source target : String)
  | overrideOfColumnAndType (column dbType : String)
  | overrideOfNothing
  | overrideColumnParts (column : String)
  | overrideTypeMissing
  | overrideTypeNameMissing
  | overridePackageWithoutImport (package : String)
  | primaryKeyEmptyPart (entry : String)
  | primaryKeyParts (entry : String)
  | unresolvedColumns (count : Nat)
  deriving DecidableEq, Repr, Inhabited

namespace ConfigError

/-- The wording of a configuration error. -/
def message : ConfigError → String
  | invalidType spec => "invalid type specification " ++ Text.quoted spec
  | driverNeedsPostgresql package engine =>
    "sql_package '" ++ package.name ++ "' requires the postgresql engine, got '" ++ engine.name ++ "'"
  | malformedOptions fault => "malformed options document: " ++ fault.message
  | malformedGlobalOptions fault => "malformed global options document: " ++ fault.message
  | noDirectoryForPackage => "package is required when out does not name a directory"
  | packageMissing => "package is required"
  | packageNotIdentifier package => "package '" ++ package ++ "' must be a plain identifier"
  | emptyInitialism => "initialisms must not contain empty entries"
  | emptyRename source target =>
    "rename entry '" ++ source ++ "' -> '" ++ target ++ "' must not be empty"
  | overrideOfColumnAndType column dbType =>
    "override for column '" ++ column ++ "' must not also set db_type '" ++ dbType ++ "'"
  | overrideOfNothing => "override must specify either column or db_type"
  | overrideColumnParts column =>
    "override column '" ++ column ++
      "' must be table.column, schema.table.column or catalog.schema.table.column"
  | overrideTypeMissing => "override go_type is required"
  | overrideTypeNameMissing => "override go_type.type is required"
  | overridePackageWithoutImport package =>
    "override go_type package '" ++ package ++ "' requires an import"
  | primaryKeyEmptyPart entry => "primary_keys_columns entry '" ++ entry ++ "' has an empty component"
  | primaryKeyParts entry =>
    "primary_keys_columns entry '" ++ entry ++ "' must be table.column or schema.table.column"
  | unresolvedColumns count => toString count ++ " column(s) could not be resolved"

end ConfigError

/-- Why a file could not be read as text. -/
inductive FileError where
  | missing
  | notText
  | other (message : String)
  deriving DecidableEq, Repr, Inhabited

namespace FileError

/-- The wording of a file error. -/
def message : FileError → String
  | missing => "No such file or directory (os error 2)"
  | notText => "stream did not contain valid UTF-8"
  | other message => message

end FileError

/-- Why a request is refused. -/
inductive Error where
  | config (cause : ConfigError)
  | unknownEngine (name : String)
  | unknownPackage (name : String)
  /-- A pattern that cannot be compiled. -/
  | pattern (source cause : String)
  | json (fault : Fault)
  | yaml (fault : Fault)
  | file (cause : FileError)
  deriving DecidableEq, Repr, Inhabited

namespace Error

/-- The wording of an error. -/
def message : Error → String
  | config cause => "Configuration error: " ++ cause.message
  | unknownEngine name => "Unsupported SQL engine: " ++ name
  | unknownPackage name => "Unknown SQL package: " ++ name
  | pattern source cause => "Invalid override pattern " ++ Text.quoted source ++ ": " ++ cause
  | json fault => "JSON error: " ++ fault.message
  | yaml fault => "YAML error: " ++ fault.message
  | file cause => "IO error: " ++ cause.message

/-- The wording of what lies behind an error, if it is not the error's own finding. -/
def cause? : Error → Option String
  | pattern _ cause => some cause
  | json fault => some fault.message
  | yaml fault => some fault.message
  | file cause => some cause.message
  | config _ => none
  | unknownEngine _ => none
  | unknownPackage _ => none

/-- An error and what lies behind it, over several lines. -/
def report (e : Error) : String :=
  "Error: " ++ e.message ++ "\n" ++
    match e.cause? with
    | some cause => "\nCaused by:\n  1: " ++ cause
    | none => ""

/-- The exit code for a file that cannot be read. -/
def fileExitCode : UInt8 := 7

/-- The exit code for everything else that is wrong. -/
def configExitCode : UInt8 := 1

/-- The exit code for an error. -/
def exitCode : Error → UInt8
  | file _ => fileExitCode
  | config _ => configExitCode
  | unknownEngine _ => configExitCode
  | unknownPackage _ => configExitCode
  | pattern _ _ => configExitCode
  | json _ => configExitCode
  | yaml _ => configExitCode

end Error

/-- The engine of that name, or the error that there is none. -/
def Engine.ofName (name : String) : Except Error Engine :=
  match Engine.ofName? name with
  | some engine => .ok engine
  | none => .error (.unknownEngine name)

/-- The client package of that name, or the error that there is none. -/
def ClientPackage.ofName (name : String) : Except Error ClientPackage :=
  match ClientPackage.ofName? name with
  | some package => .ok package
  | none => .error (.unknownPackage name)

/-- The driver of a client package on an engine, or the error that it has none there. -/
def Driver.resolve (package : ClientPackage) (engine : Engine) : Except Error Driver :=
  match Driver.resolve? package engine with
  | some driver => .ok driver
  | none => .error (.config (.driverNeedsPostgresql package engine))

end EntityModel
