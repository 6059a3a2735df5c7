import EntityModel.PackagePath
import EntityModel.TargetType.Basic
import EntityModel.Text.Blank

/-!
# The compact form of a type

One line of text for a type together with its import: `[]*example.com/mod/pkg.Type` is an array of
pointers to `pkg.Type` from `example.com/mod/pkg`. `parse?` reads it and `compact` writes it. The base
name starts after the last dot before the first bracket, so type arguments may hold dots of their own.
-/

namespace EntityModel.TargetType

open Text

/-- The qualifier in the compact form: the whole import path where the package name follows from it. -/
def compactQualifier (t : TargetType) : String :=
  match t.origin with
  | some origin =>
    if origin.localName = none ∧ '/' ∈ origin.path.toList ∧ PackagePath.name origin.path = t.qualifier then
      origin.path
    else t.qualifier
  | none => t.qualifier

/-- The compact form of a type. -/
def compact (t : TargetType) : String :=
  t.wrapper ++ if t.qualifier = "" then t.base else t.compactQualifier ++ "." ++ t.base

/-- The number of leading `[]` and the text after them. -/
def readBrackets : List Char → Nat × List Char
  | '[' :: ']' :: rest =>
    let (depth, rest) := readBrackets rest
    (depth + 1, rest)
  | cs => (0, cs)

/-- Whether a `*` leads, and the text after it. -/
def readStar : List Char → Bool × List Char
  | '*' :: rest => (true, rest)
  | cs => (false, cs)

/-- A type from its qualifier and base name; a qualifier with a slash is an import path. -/
def ofParts (qualifier base : List Char) : TargetType :=
  if '/' ∈ qualifier then
    (qualified (PackagePath.name (String.ofList qualifier)) (String.ofList base)).withOrigin
      ⟨String.ofList qualifier, none⟩
  else qualified (String.ofList qualifier) (String.ofList base)

/-- A type without wrappers from its compact form. -/
def readNamed (cs : List Char) : Option TargetType :=
  match splitAtLast '.' (cs.takeWhile (· ≠ '[')) with
  | none => some (builtin (String.ofList cs))
  | some (qualifier, name) =>
    let base := name ++ cs.dropWhile (· ≠ '[')
    if qualifier = [] ∨ base = [] then none else some (ofParts qualifier base)

/-- A type from the characters of its compact form. -/
def readCompact (cs : List Char) : Option TargetType :=
  let (depth, rest) := readBrackets (trim cs)
  let (pointer, rest) := readStar rest
  if rest = [] then none
  else (readNamed rest).map fun t => { t with pointer }.withDepth (UInt32.ofNat depth)

/-- A type from its compact form, with blanks around it allowed. -/
def parse? (s : String) : Option TargetType := readCompact s.toList

end EntityModel.TargetType
