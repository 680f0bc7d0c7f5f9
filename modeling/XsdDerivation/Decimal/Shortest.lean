import XsdDerivation.Decimal.Basic

/-!
# The shortest decimal of a float

The decimal with the fewest digits among those that are nearer to a float than to any other,
and of several with that many digits the one nearest to the float.
-/

namespace XsdDerivation

/-- A positive finite float taken apart: its value is `mantissa * 2 ^ exponent`. -/
structure BinaryParts where
  /-- The significant bits. -/
  mantissa : Nat
  /-- The power of two. -/
  exponent : Int
  /-- Whether the next smaller float is only half as far away as the next greater one. -/
  narrowBelow : Bool
  deriving DecidableEq, Repr

/-- The parts of the magnitude of a finite float. -/
def BinaryParts.ofFloat (value : Float) : BinaryParts :=
  let bits := value.toBits.toNat
  let fraction := bits % powerOfTwo 52
  let biased := bits / powerOfTwo 52 % powerOfTwo 11
  if biased = 0 then ⟨fraction, -1074, false⟩
  else ⟨powerOfTwo 52 + fraction, (biased : Int) - 1075, fraction = 0⟩

/-- The decimals that read back as a float form an interval around it. All three numbers are
in units of `1 / scale`. -/
structure RoundingInterval where
  /-- The lower end. -/
  low : Nat
  /-- The value of the float. -/
  middle : Nat
  /-- The upper end. -/
  high : Nat
  /-- The units in one. -/
  scale : Nat
  /-- Whether the ends belong to the interval. -/
  closed : Bool
  deriving DecidableEq, Repr

namespace RoundingInterval

/-- The interval of a float: half of the way to each neighbour. The ends read back as the float
whose mantissa is even. -/
def ofParts (parts : BinaryParts) : RoundingInterval :=
  let power := powerOfTwo (parts.exponent - 2).toNat
  { low := (4 * parts.mantissa - if parts.narrowBelow then 1 else 2) * power
    middle := 4 * parts.mantissa * power
    high := (4 * parts.mantissa + 2) * power
    scale := powerOfTwo (2 - parts.exponent).toNat
    closed := parts.mantissa % 2 = 0 }

/-- The number `count * 10 ^ exponent` in the units of the interval, and the interval itself,
both multiplied by a power of ten that makes the number whole. -/
def contains (interval : RoundingInterval) (count : Nat) (exponent : Int) : Bool :=
  let number := count * powerOfTen exponent.toNat * interval.scale
  let power := powerOfTen (-exponent).toNat
  if interval.closed then interval.low * power ≤ number && number ≤ interval.high * power
  else interval.low * power < number && number < interval.high * power

/-- The best multiple of `10 ^ exponent` in the interval, if it has one: of the two multiples
next to the middle the nearer one, and the greater one if they are equally near. -/
def nearest? (interval : RoundingInterval) (exponent : Int) : Option Nat :=
  let unit := powerOfTen exponent.toNat * interval.scale
  let middle := interval.middle * powerOfTen (-exponent).toNat
  let below := middle / unit
  let upward := unit ≤ 2 * (middle % unit)
  match interval.contains below exponent, interval.contains (below + 1) exponent with
  | true, true => some (if upward then below + 1 else below)
  | true, false => some below
  | false, true => some (below + 1)
  | false, false => none

/-- The greatest `exponent` below `top` for which the interval holds a multiple of
`10 ^ exponent`, with that multiple; at most `tries` exponents are tried. -/
def coarsest (interval : RoundingInterval) (top : Int) : Nat → Decimal
  | 0 => ⟨0, 0⟩
  | tries + 1 =>
    match interval.nearest? (top - 1) with
    | some count => ⟨count, top - 1⟩
    | none => interval.coarsest (top - 1) tries

end RoundingInterval

namespace Decimal

/-- The shortest decimal that reads back as the magnitude of a finite float. A multiple of a
greater power of ten has fewer digits, so the search goes down from the powers that exceed
every float. -/
def shortest (value : Float) : Decimal :=
  let parts := BinaryParts.ofFloat value
  if parts.mantissa = 0 then ⟨0, 0⟩
  else (RoundingInterval.ofParts parts).coarsest 310 650

end Decimal

/-- The text of a float in positional notation, with a point even in a whole number. -/
def renderFloat (value : Float) : String :=
  if value.isNaN then "NaN"
  else
    let sign := if value.toBits.toNat / powerOfTwo 63 = 1 then "-" else ""
    if value.isInf then sign ++ "inf"
    else
      let decimal := Decimal.shortest value
      sign ++ decimal.render ++ if 0 ≤ decimal.exponent then ".0" else ""

end XsdDerivation
