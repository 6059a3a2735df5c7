import EntityModel.Document.JsonText
import EntityModel.Error
import EntityModel.Libraries
import EntityModel.Request.Basic
import EntityModel.Text.Segment

/-!
# Reading request files

A request file holds JSON text, or YAML text if its name says so.
-/

namespace EntityModel

open Document

/-- The formats of request files. -/
inductive Format where
  | json
  | yaml
  deriving DecidableEq, Repr, Inhabited

namespace Format

/-- The extension of a file name: what follows the last dot of its last component. A dot at the start of
the component begins no extension, and the name of the parent directory has none. -/
def extension? (fileName : String) : Option String :=
  let name := match Text.splitAtLast '/' fileName.toList with
    | some (_, name) => name
    | none => fileName.toList
  match Text.splitAtLast '.' name with
  | some (stem, extension) => if stem = [] ∨ name = ['.', '.'] then none else some (String.ofList extension)
  | none => none

/-- The format that a file name stands for. -/
def ofFileName (fileName : String) : Format :=
  match extension? fileName with
  | some "yaml" => yaml
  | some "yml" => yaml
  | _ => json

/-- The tree of a text. -/
def read? (lib : Libraries) : Format → String → Option Node
  | json, text => JsonText.read? text
  | yaml, text => lib.readYaml text

/-- The error about a text of a format. -/
def error : Format → Fault → Error
  | json, fault => .json fault
  | yaml, fault => .yaml fault

end Format

namespace Request

/-- The request that a text holds. -/
def ofText (lib : Libraries) (format : Format) (text : String) : Except Error Request :=
  match format.read? lib text with
  | some n => (ofNode n).mapError format.error
  | none => .error (format.error .malformed)

/-- The request that a value holds. -/
def ofJson (v : Json) : Except Error Request := (ofNode (Node.ofJson v)).mapError .json

/-- The request that a file holds; its content has to be text. -/
def ofFile (lib : Libraries) (fileName : String) (content : Except FileError ByteArray) :
    Except Error Request := do
  let bytes ← content.mapError .file
  match String.fromUTF8? bytes with
  | some text => ofText lib (.ofFileName fileName) text
  | none => .error (.file .notText)

end Request

end EntityModel
