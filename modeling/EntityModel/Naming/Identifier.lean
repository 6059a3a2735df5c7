import EntityModel.Text.Alphanumeric
import EntityModel.Text.LetterCase
import EntityModel.Text.Segment

/-!
# Exported identifiers

How the raw name of a table or a column becomes an exported identifier: everything but letters and digits
separates words, words that are known initialisms are written in capitals, the others get a capital first
letter, and a leading digit is kept off the start by an underscore.
-/

namespace EntityModel.Naming

open Text

/-- One word of an identifier. `initialisms` holds lower-case words. -/
def casedWord (initialisms : List String) (word : List Char) : List Char :=
  if String.ofList (lower word) ∈ initialisms then upper word else capitalize word

/-- The words of a raw name, cased and joined. -/
def identifierBody (initialisms : List String) (raw : List Char) : List Char :=
  (splitBy (fun c => !isAlphanumeric c) raw).flatMap (casedWord initialisms)

/-- An underscore in front of text that starts with a digit. -/
def guardDigit : List Char → List Char
  | [] => []
  | c :: rest => if isNumeric c then '_' :: c :: rest else c :: rest

/-- The exported identifier of a raw name. -/
def identifierChars (initialisms : List String) (raw : List Char) : List Char :=
  guardDigit (identifierBody initialisms raw)

/-- The exported identifier of a raw name; a name with an entry in `renames` becomes that entry. -/
def identifier (renames : List (String × String)) (initialisms : List String) (raw : String) : String :=
  match renames.lookup raw with
  | some renamed => renamed
  | none => String.ofList (identifierChars initialisms raw.toList)

/-- The name of an object within all schemas: those outside the default schema are prefixed by theirs. -/
def flatName (defaultSchema schema name : String) : String :=
  if schema = defaultSchema then name else schema ++ "_" ++ name

theorem identifierBody_append_separator (initialisms : List String) {a b : List Char} {c : Char}
    (hc : isAlphanumeric c = false) :
    identifierBody initialisms (a ++ c :: b) =
      identifierBody initialisms a ++ identifierBody initialisms b := by
  rw [identifierBody, splitBy_append (by rw [hc, Bool.not_false]), List.flatMap_append]
  rfl

end EntityModel.Naming
