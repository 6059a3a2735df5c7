/-!
# Regular expressions

The part of the syntax of regular expressions that patterns are written in: the anchors, and single characters with
or without a repetition, where a character that means something else is escaped. `reference` reads an expression and
searches by trying all parts of a text; `bounded` also refuses an expression that gets too large to be compiled, as
engines do.
-/

namespace EntityModel.Expression

/-- A part of an expression that stands for one character. -/
inductive Atom where
  | literal (c : Char)
  /-- Any character but a line break. -/
  | dot
  deriving DecidableEq, Repr

/-- A step of an expression. -/
inductive Item where
  | one (a : Atom)
  /-- Any number of characters that the atom stands for. -/
  | many (a : Atom)
  | textStart
  | textEnd
  deriving DecidableEq, Repr

/-- The characters that mean something in expressions and are escaped to mean themselves. -/
def metaCharacters : List Char :=
  ['\\', '.', '+', '*', '?', '(', ')', '|', '[', ']', '\x7b', '\x7d', '^', '$', '#', '&', '-', '~']

/-- A character as it is written to mean itself. -/
def escape (c : Char) : List Char := if c ∈ metaCharacters then ['\\', c] else [c]

/-- An atom as written. -/
def Atom.text : Atom → List Char
  | literal c => escape c
  | dot => ['.']

/-- A step as written. -/
def Item.text : Item → List Char
  | one a => a.text
  | many a => a.text ++ ['*']
  | textStart => ['^']
  | textEnd => ['$']

/-- An expression as written. -/
def text (items : List Item) : List Char := items.flatMap Item.text

/-- Whether an atom stands for a character. -/
def Atom.accepts : Atom → Char → Bool
  | literal c, d => d == c
  | dot, d => d != '\n'

/-- Whether a step can take a part of a text, between what stands before and after it. The anchors take nothing,
and only at their end of the text. -/
def Item.takes (before piece after : List Char) : Item → Bool
  | one a => piece.length == 1 && piece.all a.accepts
  | many a => piece.all a.accepts
  | textStart => piece.isEmpty && before.isEmpty
  | textEnd => piece.isEmpty && after.isEmpty

/-! ## Engines -/

/-- The atom at the start of an expression, with what follows it. -/
def readAtom : List Char → Option (Atom × List Char)
  | [] => none
  | c :: rest =>
    if c = '.' then some (.dot, rest)
    else if c = '\\' then
      match rest with
      | [] => none
      | d :: rest => if d ∈ metaCharacters then some (.literal d, rest) else none
    else if c ∈ metaCharacters then none
    else some (.literal c, rest)

/-- The step at the start of an expression, with what follows it. -/
def readItem (cs : List Char) : Option (Item × List Char) :=
  if cs.head? = some '^' then some (.textStart, cs.tail)
  else if cs.head? = some '$' then some (.textEnd, cs.tail)
  else (readAtom cs).map fun (a, rest) =>
    if rest.head? = some '*' then (.many a, rest.tail) else (.one a, rest)

/-- The steps of an expression of no more than `n` steps. -/
def readItems : Nat → List Char → Option (List Item)
  | _, [] => some []
  | 0, _ :: _ => none
  | n + 1, c :: cs => (readItem (c :: cs)).bind fun (item, rest) => (readItems n rest).map (item :: ·)

/-- Whether a text can be cut in two parts of a kind. -/
def anyCut (p : List Char → List Char → Bool) (cs : List Char) : Bool :=
  (List.range (cs.length + 1)).any fun i => p (cs.take i) (cs.drop i)

/-- Whether the steps can take parts of a text from its start on, behind what stands before it. -/
def matchesFrom : List Item → List Char → List Char → Bool
  | [], _, _ => true
  | item :: items, before, cs =>
    anyCut (fun piece rest => item.takes before piece rest && matchesFrom items (before ++ piece) rest) cs

/-- An engine that tries all parts of a text. -/
def reference (expression : String) : Option (String → Bool) :=
  (readItems expression.toList.length expression.toList).map fun items name =>
    anyCut (matchesFrom items) name.toList

/-- How many bytes the compiled form of an expression may take. -/
def sizeLimit : Nat := 10485760

/-- About how many bytes a character of an expression takes once it is compiled. A dot stands for all characters,
in each of their encodings. -/
def charSize (c : Char) : Nat := if c = '.' then 416 else 32 * c.utf8Size

/-- About how many bytes an expression takes once it is compiled. -/
def size (expression : String) : Nat := expression.toList.foldl (fun bytes c => bytes + charSize c) 0

/-- What is said of an expression that takes more. -/
def tooLarge : String := "Compiled regex exceeds size limit of " ++ toString sizeLimit ++ " bytes."

/-- An engine that takes no expression that is too large for it, and says why it refuses one. -/
def bounded (expression : String) : Except String (String → Bool) :=
  if sizeLimit < size expression then .error tooLarge
  else
    match reference expression with
    | some found => .ok found
    | none => .error "the expression is not well formed"

end EntityModel.Expression
