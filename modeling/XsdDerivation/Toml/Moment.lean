import XsdDerivation.Toml.Number

/-!
# Dates and times in TOML

A date, a time of day, or both with or without an offset. Only possible dates and times are
read.
-/

namespace XsdDerivation.Toml

open Text Text.Reader

/-- Reads a number of this many digits in a range, and gives it with its digits. -/
def boundedNumber (width least greatest : Nat) : Reader (Nat × List Char) := do
  let written ← count Char.isDigit width
  let number := Decimal.ofDigits 10 Decimal.digitValue written
  if least ≤ number ∧ number ≤ greatest then pure (number, written) else failure

/-- The number of days of a month. -/
def daysOfMonth (year month : Nat) : Nat :=
  if month = 2 then
    if year % 4 = 0 ∧ (year % 100 ≠ 0 ∨ year % 400 = 0) then 29 else 28
  else if month ∈ [4, 6, 9, 11] then 30
  else 31

/-- Reads a date. -/
def date : Reader (List Char) := do
  let (year, yearText) ← boundedNumber 4 0 9999
  exactly '-'
  let (month, monthText) ← boundedNumber 2 1 12
  exactly '-'
  let (_, dayText) ← boundedNumber 2 1 (daysOfMonth year month)
  pure (yearText ++ ['-'] ++ monthText ++ ['-'] ++ dayText)

/-- Reads the part of a second after its point. -/
def secondFraction : Reader (List Char) := do
  exactly '.'
  let written ← takeWhile1 Char.isDigit
  pure ('.' :: written)

/-- Reads a time of day. A minute may have a leap second. -/
def timeOfDay : Reader (List Char) := do
  let (_, hour) ← boundedNumber 2 0 23
  exactly ':'
  let (_, minute) ← boundedNumber 2 0 59
  exactly ':'
  let (_, second) ← boundedNumber 2 0 60
  let part ← optional secondFraction
  pure (hour ++ [':'] ++ minute ++ [':'] ++ second ++ part.getD [])

/-- Reads an offset from universal time. -/
def offset : Reader (List Char) :=
  (do
    let mark ← char fun c => c == 'Z' || c == 'z'
    pure [mark]) <|>
  (do
    let direction ← char fun c => c == '+' || c == '-'
    let (_, hour) ← boundedNumber 2 0 23
    exactly ':'
    let (_, minute) ← boundedNumber 2 0 59
    pure ([direction] ++ hour ++ [':'] ++ minute))

/-- Reads the time that follows a date. -/
def timeAfterDate : Reader (List Char) := do
  let mark ← char fun c => c == 'T' || c == 't' || c == ' '
  let time ← timeOfDay
  let shift ← optional offset
  pure ([mark] ++ time ++ shift.getD [])

/-- Reads a date, a time of day, or a date and a time. -/
def moment : Reader (List Char) :=
  (do
    let day ← date
    let time ← optional timeAfterDate
    pure (day ++ time.getD [])) <|> timeOfDay

end XsdDerivation.Toml
