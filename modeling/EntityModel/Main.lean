import EntityModel.CommandLine.Arguments

/-!
# The program

Reads the arguments and the request file, prints what the run leaves behind and ends with its exit code.
-/

namespace EntityModel.CommandLine

/-- The content of a file, or why there is none. -/
def readContent (fileName : String) : IO (Except FileError ByteArray) := do
  try
    return .ok (← IO.FS.readBinFile fileName)
  catch e =>
    match e with
    | .noFileOrDirectory .. => return .error .missing
    | e => return .error (.other (toString e))

/-- The exit code for arguments that ask for nothing the program does. -/
def usageExitCode : UInt32 := 2

/-- A run of the program with the given arguments. -/
def program (arguments : List String) : IO UInt32 := do
  match Invocation.ofArguments? arguments with
  | some { requestFile, json, command := some command } =>
    let outcome := run .standard command json requestFile (← readContent requestFile)
    IO.print outcome.stdout
    IO.eprint outcome.stderr
    return outcome.exitCode.toUInt32
  | _ =>
    IO.eprint Invocation.usage
    return usageExitCode

end EntityModel.CommandLine

/-- The program. -/
def main (arguments : List String) : IO UInt32 := EntityModel.CommandLine.program arguments
