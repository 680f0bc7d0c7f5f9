/-!
# Decimal numbers

Numbers with a power of ten, as they are written in text, and the float nearest to one.
-/

namespace XsdDerivation

/-- A power of two. -/
def powerOfTwo (exponent : Nat) : Nat :=
  Nat.pow 2 exponent

/-- A power of ten. -/
def powerOfTen (exponent : Nat) : Nat :=
  Nat.pow 10 exponent

/-- The number `coefficient * 10 ^ exponent`. -/
structure Decimal where
  /-- The digits, as a number. -/
  coefficient : Nat
  /-- The power of ten. -/
  exponent : Int
  deriving DecidableEq, Repr

namespace Decimal

/-- The number that a list of digits denotes in a radix. -/
def ofDigits (radix : Nat) (digit : Char → Nat) (digits : List Char) : Nat :=
  digits.foldl (fun value c => radix * value + digit c) 0

/-- The value of a decimal or hexadecimal digit. -/
def digitValue (c : Char) : Nat :=
  if c.isDigit then c.toNat - '0'.toNat
  else if c.isUpper then c.toNat - 'A'.toNat + 10
  else c.toNat - 'a'.toNat + 10

/-- The float nearest to a decimal. Numbers far beyond the range of floats become infinite or
zero without their power of ten being computed. -/
def toFloat (decimal : Decimal) : Float :=
  let magnitude : Int := (Nat.toDigits 10 decimal.coefficient).length + decimal.exponent
  if decimal.coefficient = 0 || magnitude < -400 then 0.0
  else if 400 < magnitude then 1.0 / 0.0
  else if decimal.exponent < 0 then
    Float.ofScientific decimal.coefficient true decimal.exponent.natAbs
  else Float.ofScientific decimal.coefficient false decimal.exponent.natAbs

/-- The decimal in positional notation: its digits with a point where it falls, and without a
point if it is a whole number. -/
def render (decimal : Decimal) : String :=
  let digits := Nat.toDigits 10 decimal.coefficient
  let shift := decimal.exponent.natAbs
  if 0 ≤ decimal.exponent then String.ofList (digits ++ List.replicate shift '0')
  else if shift < digits.length then
    String.ofList (digits.take (digits.length - shift) ++ ['.'] ++
      digits.drop (digits.length - shift))
  else String.ofList (['0', '.'] ++ List.replicate (shift - digits.length) '0' ++ digits)

end Decimal

end XsdDerivation
