import EntityModel.Json.Decimal

/-!
# Plain scalars

What an unquoted scalar of a YAML document stands for when no text is asked for: the null, Boolean and
number spellings of the core schema.
-/

namespace EntityModel.Document.PlainScalar

/-- The spellings of null; the empty scalar is one of them. -/
def isNull (cs : List Char) : Bool := String.ofList cs ∈ ["", "null", "Null", "NULL", "~"]

/-- The Booleans. -/
def bool? (cs : List Char) : Option Bool :=
  let s := String.ofList cs
  if s ∈ ["true", "True", "TRUE"] then some true
  else if s ∈ ["false", "False", "FALSE"] then some false
  else none

/-- The value of a digit in a base of at most sixteen. -/
def digit? (base : Nat) (c : Char) : Option Nat :=
  let value :=
    if c.isDigit then c.toNat - '0'.toNat
    else if 'a' ≤ c ∧ c ≤ 'f' then c.toNat - 'a'.toNat + 10
    else if 'A' ≤ c ∧ c ≤ 'F' then c.toNat - 'A'.toNat + 10
    else base
  if value < base then some value else none

/-- The number that one or more digits of a base write. -/
def digits? (base : Nat) (cs : List Char) : Option Nat :=
  if cs = [] then none
  else (cs.mapM (digit? base)).map fun ds => ds.foldl (fun n d => n * base + d) 0

/-- Several digits that start with a zero are no decimal number. -/
def hasLeadingZero : List Char → Bool
  | '0' :: c :: rest => (c :: rest).all Char.isDigit
  | _ => false

/-- An unsigned whole number: decimal, or in base 16, 8 or 2 behind `0x`, `0o` or `0b`. -/
def magnitude? (cs : List Char) : Option Nat :=
  match cs with
  | '0' :: 'x' :: rest => digits? 16 rest
  | '0' :: 'o' :: rest => digits? 8 rest
  | '0' :: 'b' :: rest => digits? 2 rest
  | _ => if hasLeadingZero cs then none else digits? 10 cs

/-- A whole number with an optional sign; the flag tells whether the sign is a minus. -/
def int? (cs : List Char) : Option (Bool × Int) :=
  match cs with
  | '-' :: rest => (magnitude? rest).map fun n => (true, -(n : Int))
  | '+' :: rest => (magnitude? rest).map fun n => (false, (n : Int))
  | _ => (magnitude? cs).map fun n => (false, (n : Int))

/-- An exponent: digits with an optional sign. -/
def exponent? (cs : List Char) : Option Int :=
  match cs with
  | '-' :: rest => (digits? 10 rest).map fun n => -(n : Int)
  | '+' :: rest => (digits? 10 rest).map fun n => (n : Int)
  | _ => (digits? 10 cs).map fun n => (n : Int)

/-- An unsigned decimal number with an optional fraction and exponent and at least one digit. -/
def decimal? (cs : List Char) : Option Decimal :=
  let inSignificand := fun c => c ≠ 'e' && c ≠ 'E'
  let significand := cs.takeWhile inSignificand
  let whole := significand.takeWhile (· ≠ '.')
  let fraction := (significand.dropWhile (· ≠ '.')).drop 1
  match digits? 10 (whole ++ fraction), cs.dropWhile inSignificand with
  | some mantissa, [] => some ⟨mantissa, -(fraction.length : Int)⟩
  | some mantissa, _ :: rest =>
    (exponent? rest).map fun e => ⟨mantissa, e - (fraction.length : Int)⟩
  | none, _ => none

/-- The spellings of infinities and of the value that is no number. -/
def isNonFinite (cs : List Char) : Bool :=
  String.ofList cs ∈ [".inf", ".Inf", ".INF", "+.inf", "+.Inf", "+.INF", "-.inf", "-.Inf", "-.INF",
    ".nan", ".NaN", ".NAN"]

/-- An unsigned number that is finite and not written as digits behind a zero. -/
def finite? (cs : List Char) : Option Decimal :=
  if hasLeadingZero cs then none
  else (decimal? cs).bind fun d => if d.fitsDouble then some d else none

/-- A finite number with an optional sign. -/
def float? (cs : List Char) : Option Decimal :=
  match cs with
  | '-' :: rest => (finite? rest).map fun d => ⟨-d.mantissa, d.exponent⟩
  | '+' :: rest => finite? rest
  | _ => finite? cs

end EntityModel.Document.PlainScalar
