import EntityModel.CommandLine

/-!
# Command-line arguments

The flags of the program and its two commands. Options may stand before and after the command, with their
value behind an equals sign or as the next argument; those about logging are accepted and say nothing about
what is printed.
-/

namespace EntityModel.CommandLine

/-- What the arguments ask for. -/
structure Invocation where
  requestFile : String := "request.json"
  json : Bool := false
  /-- The command, none until one is named. -/
  command : Option Command := none
  deriving DecidableEq, Repr, Inhabited

namespace Invocation

/-- How the program is called. -/
def usage : String :=
  String.join
    [textLine "Usage: [-r FILE] [--output-json] [--log-format FORMAT] [--verbosity LEVEL] COMMAND",
     textLine "Commands:",
     textLine "  resolve [--all] [--strict]  resolve every table and print the entity models",
     textLine "  validate                    check the options documents only"]

/-- The options about logging, which take a value. -/
def isLogOption (name : String) : Bool := name ∈ ["--log-format", "--verbosity"]

/-- The option that names the request file. -/
def isRequestOption (name : String) : Bool := name ∈ ["-r", "--request"]

/-- An argument cut at its first equals sign. -/
def splitValue (argument : String) : String × Option String :=
  let cs := argument.toList
  match cs.dropWhile (· ≠ '=') with
  | _ :: value => (String.ofList (cs.takeWhile (· ≠ '=')), some (String.ofList value))
  | [] => (argument, none)

/-- The command with one more flag, if it has such a flag. -/
def addFlag (flag : String) : Option Command → Option Command
  | some (.resolve all strict) =>
    if flag = "--all" then some (.resolve true strict)
    else if flag = "--strict" then some (.resolve all true)
    else none
  | _ => none

/-- The arguments with their values, which stand behind an equals sign or follow as arguments. -/
def withValues : List String → List (String × Option String)
  | [] => []
  | [argument] => [splitValue argument]
  | argument :: value :: rest =>
    if isRequestOption argument || isLogOption argument then (argument, some value) :: withValues rest
    else splitValue argument :: withValues (value :: rest)

/-- What is asked for with one more argument. -/
def add? (i : Invocation) : String × Option String → Option Invocation
  | (name, some value) =>
    if isRequestOption name then some { i with requestFile := value }
    else if isLogOption name then some i
    else none
  | (name, none) =>
    if name = "--output-json" then some { i with json := true }
    else if name = "resolve" ∧ i.command = none then
      some { i with command := some (.resolve false false) }
    else if name = "validate" ∧ i.command = none then some { i with command := some .validate }
    else (addFlag name i.command).map fun command => { i with command := some command }

/-- What a list of arguments asks for. -/
def ofArguments? (arguments : List String) : Option Invocation :=
  (withValues arguments).foldlM add? {}

end Invocation

end EntityModel.CommandLine
