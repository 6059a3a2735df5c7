import EntityModel.Text.LetterCase
import EntityModel.Text.Segment

/-!
# Singular names

The singular of a plural table name by the rules of English spelling. Only the last word, after the last
underscore, is inflected. Words on the lists below are decided first, whatever their letter case; words
with letters outside ASCII are then left alone, and the endings decide the others.
-/

namespace EntityModel.Naming

open Text

/-- Words whose singular is the word itself. -/
def uncountables : List String :=
  ["equipment", "information", "rice", "money", "species", "series", "fish", "sheep", "news", "data",
   "metadata", "jeans", "police"]

/-- Plurals that no ending explains, with their singulars. -/
def irregulars : List (String × String) :=
  [("people", "person"), ("children", "child"), ("men", "man"), ("women", "woman"), ("mice", "mouse"),
   ("geese", "goose"), ("teeth", "tooth"), ("feet", "foot"), ("oxen", "ox"), ("movies", "movie"),
   ("cookies", "cookie"), ("indices", "index"), ("matrices", "matrix"), ("vertices", "vertex"),
   ("criteria", "criterion")]

/-- Singulars in `s` whose plural adds `es`. -/
def sibilantStems : List String := ["status", "alias", "bus", "virus", "campus", "census"]

/-- The replacement with a capital first letter if the word has one. -/
def withLeadingCase (word replacement : List Char) : List Char :=
  match word with
  | c :: _ => if c.isUpper then capitalize replacement else replacement
  | [] => replacement

/-- Whether a word ends as given. -/
def endsIn (ending : String) (word : List Char) : Bool := ending.toList.isSuffixOf word

/-- The word without its last `n` letters. -/
def dropLast (n : Nat) (word : List Char) : List Char := word.take (word.length - n)

/-- The singular of an ASCII word by its ending. `low` is the word in lower case. -/
def singularByEnding (word low : List Char) : List Char :=
  if sibilantStems.any fun stem => stem.toList ++ ['e', 's'] = low then dropLast 2 word
  else if endsIn "ies" low && 3 < low.length then
    dropLast 3 word ++ [if endsIn "IES" word then 'Y' else 'y']
  else if ["sses", "xes", "ches", "shes", "zzes"].any (endsIn · low) then dropLast 2 word
  else if ["ss", "us", "is"].any (endsIn · low) then word
  else if endsIn "s" low && 1 < low.length then dropLast 1 word
  else word

/-- The singular of one word. -/
def singularWord (word : List Char) : List Char :=
  let low := lower word
  if String.ofList low ∈ uncountables then word
  else
    match irregulars.lookup (String.ofList low) with
    | some single => withLeadingCase word single.toList
    | none => if word.all fun c => c.toNat < 128 then singularByEnding word low else word

/-- The singular of a name as characters: what precedes the last word is kept. -/
def singularChars (name : List Char) : List Char :=
  match splitAtLast '_' name with
  | some (before, word) => before ++ '_' :: singularWord word
  | none => singularWord name

/-- The singular of a table name, or the name itself where it is among the exclusions. -/
def singular (name : String) (exclusions : List String) : String :=
  if name ∈ exclusions then name else String.ofList (singularChars name.toList)

end EntityModel.Naming
