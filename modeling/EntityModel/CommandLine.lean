import EntityModel.Generation.Encode
import EntityModel.Generation.Report
import EntityModel.Options.Report
import EntityModel.Request.Read

/-!
# The command line

What a run of the program prints and with which exit code it ends, as a function of its request file and
of its flags. `resolve` prints the generation, and in its strict form then fails if a column has no known
type. `validate` stops after the options. A run that cannot go on is aborted, with what it has printed so far.
-/

namespace EntityModel.CommandLine

/-- What the program is asked to do. -/
inductive Command where
  | resolve (all strict : Bool)
  | validate
  deriving DecidableEq, Repr, Inhabited

/-- Why a run cannot go on. -/
inductive Abort where
  /-- The dimensions of a column are more than a word can count. -/
  | overflow
  /-- The names of the fields of an entity are too wide to be laid out. -/
  | width
  deriving DecidableEq, Repr, Inhabited

/-- The wording of an abort. -/
def Abort.message : Abort → String
  | overflow => "attempt to add with overflow"
  | width => "Formatting argument out of range"

/-- What a run leaves behind. -/
structure Outcome where
  exitCode : UInt8 := 0
  stdout : String := ""
  stderr : String := ""
  deriving DecidableEq, Repr, Inhabited

namespace Outcome

/-- A run that ends well. -/
def success (stdout : String) : Outcome := { stdout }

/-- A run that ends with an error, after it has printed something. -/
def failure (stdout : String) (e : Error) : Outcome :=
  { exitCode := e.exitCode, stdout, stderr := textLine e.report }

/-- The exit code of an aborted run. -/
def abortExitCode : UInt8 := 101

/-- A run that is aborted after it has printed something. -/
def aborted (stdout : String) (reason : Abort) : Outcome :=
  { exitCode := abortExitCode, stdout, stderr := textLine reason.message }

end Outcome

/-- What `resolve` prints for a generation, in parts that are printed one after the other. -/
def generationLines (g : Generation) (json all : Bool) : List (Option String) :=
  if json then [some (textLine g.toJson.pretty)] else g.lines all

/-- What `validate` prints for settled options. -/
def optionsText (o : Options) (json : Bool) : String :=
  if json then textLine o.summaryJson.line else o.summary

/-- The outcome of `resolve` for a generation. -/
def generationOutcome (g : Generation) (json all strict : Bool) : Outcome :=
  let lines := generationLines g json all
  if lines.any (·.isNone) then .aborted (printed lines) .width
  else if strict && !g.diagnostics.isEmpty then
    .failure (printed lines) (.config (.unresolvedColumns g.diagnostics.length))
  else .success (printed lines)

/-- The outcome of a run on a request. -/
def runRequest (lib : Libraries) (command : Command) (json : Bool) (r : Request) : Outcome :=
  match command with
  | .resolve all strict =>
    match Generation.ofRequest? lib r with
    | .ok (some g) => generationOutcome g json all strict
    | .ok none => .aborted "" .overflow
    | .error e => .failure "" e
  | .validate =>
    match Options.ofRequest lib r with
    | .ok o => .success (optionsText o json)
    | .error e => .failure "" e

/-- The outcome of a run on a file of that name and content. -/
def run (lib : Libraries) (command : Command) (json : Bool) (fileName : String)
    (content : Except FileError ByteArray) : Outcome :=
  match Request.ofFile lib fileName content with
  | .ok r => runRequest lib command json r
  | .error e => .failure "" e

end EntityModel.CommandLine
