import EntityModel.Json.Decimal

/-!
# The size of JSON numbers

Whether a number of a JSON text is too large to be a value. The text is not rounded as a whole: its digits
go into a 64-bit significand as far as they fit, and the number is too large if the double nearest to the
significand times the double nearest to the power of ten is beyond all doubles. Next to the largest double
this may differ from what rounding the number itself would say.
-/

namespace EntityModel

/-- The number `significand * 10 ^ exponent`, with as many digits of a text as fit. -/
structure Magnitude where
  significand : Nat
  exponent : Int
  deriving DecidableEq, Repr, Inhabited

namespace Magnitude

/-- The value of a decimal digit. -/
def digit (c : Char) : Nat := c.toNat - '0'.toNat

/-- The significand with one more digit, if that still fits into 64 bits. -/
def append? (significand : Nat) (c : Char) : Option Nat :=
  let longer := significand * 10 + digit c
  if longer < Nat.pow 2 64 then some longer else none

/-- The digits before the point. Those that do not fit any more count as zeros. -/
def ofWhole (significand : Nat) : List Char → Magnitude
  | [] => ⟨significand, 0⟩
  | c :: rest =>
    match append? significand c with
    | some longer => ofWhole longer rest
    | none => ⟨significand, rest.length + 1⟩

/-- The digits behind the point. Those that do not fit any more are dropped. -/
def addFraction (m : Magnitude) : List Char → Magnitude
  | [] => m
  | c :: rest =>
    match append? m.significand c with
    | some longer => addFraction ⟨longer, m.exponent - 1⟩ rest
    | none => m

/-- The magnitude of a number from its digits and its exponent. -/
def ofDigits (whole fraction : List Char) (exponent : Int) : Magnitude :=
  let m := (ofWhole 0 whole).addFraction fraction
  { m with exponent := m.exponent + exponent }

/-- The nearest number of at most 53 binary digits, not counting zeros at the end; the even one of two. -/
def nearestDouble (n : Nat) : Nat :=
  let shift := n.log2 - 52
  let unit := Nat.pow 2 shift
  let low := n % unit
  let high := n / unit
  let isUp := unit < 2 * low || (unit = 2 * low && high % 2 = 1)
  (if isUp then high + 1 else high) * unit

/-- The largest power of ten that is a double. -/
def maxPowerOfTen : Nat := 308

/-- Whether the number is no larger than all doubles. -/
def isInRange (m : Magnitude) : Bool :=
  m.significand = 0 || m.exponent < 0 ||
    (m.exponent ≤ maxPowerOfTen &&
      nearestDouble m.significand * nearestDouble (Nat.pow 10 m.exponent.toNat) < Decimal.overflowLimit)

end Magnitude

end EntityModel
