/-!
# Decimal numbers

Numbers with a fraction or an exponent, kept exactly as a mantissa and a power of ten, and the question
whether one still fits a double-precision float.
-/

namespace EntityModel

/-- The number `mantissa * 10 ^ exponent`. -/
structure Decimal where
  mantissa : Int
  exponent : Int
  deriving DecidableEq, Repr, Inhabited

namespace Decimal

/-- The number as JSON text. -/
def text (d : Decimal) : String := toString d.mantissa ++ "e" ++ toString d.exponent

/-- Half a unit beyond the largest finite double: the first magnitude that rounds to infinity. -/
def overflowLimit : Nat := Nat.pow 2 1024 - Nat.pow 2 970

/-- Whether the nearest double is finite. Exponents that settle the question on their own are decided
first, so that no huge power of ten is ever computed. -/
def fitsDouble (d : Decimal) : Bool :=
  let m := d.mantissa.natAbs
  if m = 0 then true
  else if 400 < d.exponent then false
  else if 0 ≤ d.exponent then m * Nat.pow 10 d.exponent.toNat < overflowLimit
  else if m < overflowLimit then true
  else if m.log2 < 3 * d.exponent.natAbs then true
  else m < overflowLimit * Nat.pow 10 d.exponent.natAbs

end Decimal

end EntityModel
