import EntityModel.Document.Node
import EntityModel.Json.Magnitude

/-!
# Reading JSON text

A document tree from JSON text. One value, with blanks around it and nothing else, makes a document.
Half a surrogate pair, a number that is too large and nesting beyond `maxDepth` do not spoil the
text: they make the part unusable, so that it can be passed over where nobody asks for it.
-/

namespace EntityModel.Document.JsonText

/-- How many arrays and objects a usable value may lie in. -/
def maxDepth : Nat := 127

/-- The blanks between the parts of a text. -/
def isSpace (c : Char) : Bool := c = ' ' || c = '\n' || c = '\t' || c = '\r'

/-- The text after any blanks. -/
def skipSpace (cs : List Char) : List Char := cs.dropWhile isSpace

/-! ## Strings -/

/-- The 16-bit unit that four hexadecimal digits write. -/
def unit? (digits : List Char) : Option Nat := PlainScalar.digits? 16 digits

/-- The character of a one-letter escape. -/
def escaped? (c : Char) : Option Char :=
  match c with
  | '"' => some '"'
  | '\\' => some '\\'
  | '/' => some '/'
  | 'b' => some (Char.ofNat 8)
  | 'f' => some (Char.ofNat 12)
  | 'n' => some '\n'
  | 'r' => some '\r'
  | 't' => some '\t'
  | _ => none

/-- The code points and escaped 16-bit units up to the closing quote, and the text after it. -/
def readUnits : List Char → Option (List Nat × List Char)
  | [] => none
  | '"' :: rest => some ([], rest)
  | '\\' :: 'u' :: a :: b :: c :: d :: rest =>
    match unit? [a, b, c, d], readUnits rest with
    | some u, some (us, rest) => some (u :: us, rest)
    | _, _ => none
  | '\\' :: e :: rest =>
    match escaped? e, readUnits rest with
    | some c, some (us, rest) => some (c.toNat :: us, rest)
    | _, _ => none
  | c :: rest =>
    if c.toNat < 32 then none else (readUnits rest).map fun (us, rest) => (c.toNat :: us, rest)

/-- The first half of a surrogate pair. -/
def isHighSurrogate (u : Nat) : Bool := 0xd800 ≤ u && u < 0xdc00

/-- The second half of a surrogate pair. -/
def isLowSurrogate (u : Nat) : Bool := 0xdc00 ≤ u && u < 0xe000

/-- The characters that units stand for; half a surrogate pair stands for none. -/
def charsOfUnits : List Nat → Option (List Char)
  | [] => some []
  | [u] => if isHighSurrogate u || isLowSurrogate u then none else some [Char.ofNat u]
  | u :: v :: rest =>
    if isHighSurrogate u then
      if isLowSurrogate v then
        (charsOfUnits rest).map (Char.ofNat (0x10000 + (u - 0xd800) * 0x400 + (v - 0xdc00)) :: ·)
      else none
    else if isLowSurrogate u then none
    else (charsOfUnits (v :: rest)).map (Char.ofNat u :: ·)

/-- A string, after its opening quote. `none` inside stands for a string that holds no text. -/
def readString (cs : List Char) : Option (Option String × List Char) :=
  (readUnits cs).map fun (us, rest) => ((charsOfUnits us).map String.ofList, rest)

/-! ## Numbers -/

/-- The digits at the start of a text, of which there has to be one, and the text after them. -/
def readDigits (cs : List Char) : Option (List Char × List Char) :=
  match cs.takeWhile Char.isDigit with
  | [] => none
  | digits => some (digits, cs.dropWhile Char.isDigit)

/-- A fraction at the start of a text: its digits, none if there is no point. -/
def readFraction : List Char → Option (List Char × List Char)
  | '.' :: rest => readDigits rest
  | cs => some ([], cs)

/-- An exponent at the start of a text, `none` inside if there is no mark. -/
def readExponent : List Char → Option (Option Int × List Char)
  | c :: rest =>
    if c = 'e' ∨ c = 'E' then
      match rest with
      | '+' :: rest => (readDigits rest).map fun (ds, rest) => (PlainScalar.exponent? ds, rest)
      | '-' :: rest => (readDigits rest).map fun (ds, rest) => (PlainScalar.exponent? ('-' :: ds), rest)
      | _ => (readDigits rest).map fun (ds, rest) => (PlainScalar.exponent? ds, rest)
    else some (none, c :: rest)
  | [] => some (none, [])

/-- The node of a number. Without fraction and exponent it is whole as far as 64 bits reach, but the zero
with a minus sign is not. -/
def numberNode (negative : Bool) (whole fraction : List Char) (exponent : Option Int) : Node :=
  let magnitude : Int := ((PlainScalar.digits? 10 (whole ++ fraction)).getD 0 : Nat)
  let mantissa := if negative then -magnitude else magnitude
  if fraction = [] ∧ exponent = none ∧ Node.isWholeNumber mantissa ∧ ¬(negative ∧ mantissa = 0) then
    .int mantissa
  else
    if (Magnitude.ofDigits whole fraction (exponent.getD 0)).isInRange then
      .decimal ⟨mantissa, exponent.getD 0 - (fraction.length : Int)⟩
    else .unusable

/-- A number without its sign. Digits do not follow a leading zero. -/
def readUnsigned (negative : Bool) (cs : List Char) : Option (Node × List Char) := do
  let (whole, rest) ←
    match cs with
    | '0' :: rest => some (['0'], rest)
    | _ => readDigits cs
  let (fraction, rest) ← readFraction rest
  let (exponent, rest) ← readExponent rest
  return (numberNode negative whole fraction exponent, rest)

/-- A number. -/
def readNumber : List Char → Option (Node × List Char)
  | '-' :: rest => readUnsigned true rest
  | cs => readUnsigned false cs

/-! ## Values -/

mutual

/-- A value at the start of a text, after any blanks; `depth` counts what it lies in. -/
def readValue : Nat → Nat → List Char → Option (Node × List Char)
  | 0, _, _ => none
  | fuel + 1, depth, cs =>
    match skipSpace cs with
    | 'n' :: 'u' :: 'l' :: 'l' :: rest => some (.null, rest)
    | 't' :: 'r' :: 'u' :: 'e' :: rest => some (.bool true, rest)
    | 'f' :: 'a' :: 'l' :: 's' :: 'e' :: rest => some (.bool false, rest)
    | '"' :: rest =>
      (readString rest).map fun (s, rest) =>
        (match s with | some s => .string s | none => .unusable, rest)
    | '[' :: rest =>
      (match skipSpace rest with
      | ']' :: rest => some ([], rest)
      | rest => readItems fuel (depth + 1) rest).map fun (items, rest) =>
        (Node.within maxDepth (depth + 1) (.array items), rest)
    | '{' :: rest =>
      (match skipSpace rest with
      | '}' :: rest => some ([], rest)
      | rest => readEntries fuel (depth + 1) rest).map fun (entries, rest) =>
        (Node.within maxDepth (depth + 1) (.ofEntries entries), rest)
    | rest => readNumber rest

/-- One or more items with commas between them, and the closing bracket. -/
def readItems : Nat → Nat → List Char → Option (List Node × List Char)
  | 0, _, _ => none
  | fuel + 1, depth, cs =>
    match readValue fuel depth cs with
    | none => none
    | some (n, rest) =>
      match skipSpace rest with
      | ']' :: rest => some ([n], rest)
      | ',' :: rest => (readItems fuel depth rest).map fun (ns, rest) => (n :: ns, rest)
      | _ => none

/-- One or more named values with commas between them, and the closing brace. -/
def readEntries : Nat → Nat → List Char → Option (List (Option String × Node) × List Char)
  | 0, _, _ => none
  | fuel + 1, depth, cs =>
    match skipSpace cs with
    | '"' :: rest =>
      match readString rest with
      | none => none
      | some (name, rest) =>
        match skipSpace rest with
        | ':' :: rest =>
          match readValue fuel depth rest with
          | none => none
          | some (n, rest) =>
            match skipSpace rest with
            | '}' :: rest => some ([(name, n)], rest)
            | ',' :: rest =>
              (readEntries fuel depth rest).map fun (es, rest) => ((name, n) :: es, rest)
            | _ => none
        | _ => none
    | _ => none

end

/-- The tree of a JSON text. Each call of the reader but the one in front of an item or a member takes a
character, so twice the length of the text is enough for all of them. -/
def read? (text : String) : Option Node :=
  let cs := text.toList
  match readValue (2 * cs.length + 2) 0 cs with
  | some (n, rest) => if skipSpace rest = [] then some n else none
  | none => none

end EntityModel.Document.JsonText
