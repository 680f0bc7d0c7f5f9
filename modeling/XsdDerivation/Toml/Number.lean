import XsdDerivation.Toml.Text

/-!
# Numbers in TOML

Whole numbers have 64 bits and may be written in four radices; floats are the nearest to what
is written. Underscores may stand between digits.
-/

namespace XsdDerivation.Toml

open Text Text.Reader

/-- Reads digits of a class with single underscores between them, and gives the digits. -/
def digits (accept : Char → Bool) : Reader (List Char) := do
  let first ← char accept
  let rest ← many (char accept <|> (do
    exactly '_'
    char accept))
  pure (first :: rest)

/-- Reads a sign, if there is one, and tells whether it is a minus. -/
def sign : Reader Bool :=
  (do exactly '-'; pure true) <|> (do exactly '+'; pure false) <|> pure false

/-- Reads the digits of a whole number in radix ten. A leading zero stands alone. -/
def wholeDigits : Reader (List Char) :=
  (do
    lookAhead (skip fun c => '1' ≤ c && c ≤ '9')
    digits Char.isDigit) <|>
  (do
    let zero ← char Char.isDigit
    pure [zero])

/-- The whole numbers of 64 bits. -/
def isWord (number : Int) : Bool :=
  -0x8000000000000000 ≤ number && number ≤ 0x7FFFFFFFFFFFFFFF

/-- Reads a number after the mark of its radix. -/
def radixNumber (mark : Char) (radix : Nat) (accept : Char → Bool) : Reader Int := do
  literal ['0', mark]
  let written ← digits accept
  pure (Decimal.ofDigits radix Decimal.digitValue written)

/-- Reads a number in radix ten. -/
def decimalNumber : Reader Int := do
  let negative ← sign
  let written ← wholeDigits
  let magnitude : Int := Decimal.ofDigits 10 Decimal.digitValue written
  pure (if negative then -magnitude else magnitude)

/-- Reads a whole number that fits into 64 bits. -/
def integer : Reader Int := do
  let number ←
    radixNumber 'x' 16 isHexDigit <|>
    radixNumber 'o' 8 (fun c => '0' ≤ c && c ≤ '7') <|>
    radixNumber 'b' 2 (fun c => c == '0' || c == '1') <|>
    decimalNumber
  if isWord number then pure number else failure

/-- Reads the digits after a point. -/
def fraction : Reader (List Char) := do
  exactly '.'
  digits Char.isDigit

/-- Reads a power of ten. -/
def exponent : Reader Int := do
  skip fun c => c == 'e' || c == 'E'
  let negative ← sign
  let written ← digits Char.isDigit
  let magnitude : Int := Decimal.ofDigits 10 Decimal.digitValue written
  pure (if negative then -magnitude else magnitude)

/-- Reads a float that is written with a point or an exponent. One too great for a float is
refused, unless it is negative. -/
def pointFloat : Reader Float := do
  let negative ← sign
  let whole ← wholeDigits
  let (places, power) ←
    (do
      let power ← exponent
      pure ([], power)) <|>
    (do
      let places ← fraction
      let power ← optional exponent
      pure (places, power.getD 0))
  let magnitude := Decimal.toFloat
    ⟨Decimal.ofDigits 10 Decimal.digitValue (whole ++ places), power - places.length⟩
  if negative then pure (-magnitude)
  else if magnitude.isInf then failure
  else pure magnitude

/-- Reads an infinity or a number that is none. -/
def namedFloat : Reader Float := do
  let negative ← sign
  let magnitude ←
    (do
      literal ['i', 'n', 'f']
      pure (1.0 / 0.0 : Float)) <|>
    (do
      literal ['n', 'a', 'n']
      pure (0.0 / 0.0 : Float))
  pure (if negative then -magnitude else magnitude)

/-- Reads a float. -/
def float : Reader Float :=
  pointFloat <|> namedFloat

end XsdDerivation.Toml
