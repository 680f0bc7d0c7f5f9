/-!
# Tables of code points

A property of characters is given by the runs of code points that have it, in ascending
order. Looking a code point up stops at the first run that begins beyond it.
-/

namespace XsdDerivation.Text

/-- The code points `first`, `first + stride`, … up to `last`. -/
structure CodeRun where
  /-- The least code point of the run. -/
  first : Nat
  /-- The greatest code point of the run. -/
  last : Nat
  /-- The distance between neighbours in the run. -/
  stride : Nat
  deriving DecidableEq, Repr

namespace CodeRun

/-- Whether a code point is in the run. -/
def contains (run : CodeRun) (code : Nat) : Bool :=
  run.first ≤ code && code ≤ run.last && (code - run.first) % run.stride == 0

/-- The value that a table in ascending order gives to a code point. -/
def lookup {α : Type} : List (CodeRun × α) → Nat → Option α
  | [], _ => none
  | (run, value) :: rest, code =>
    if code < run.first then none
    else if run.contains code then some value
    else lookup rest code

/-- Whether one of the runs, in ascending order, contains a code point. -/
def covers : List CodeRun → Nat → Bool
  | [], _ => false
  | run :: rest, code =>
    if code < run.first then false
    else run.contains code || covers rest code

end CodeRun

end XsdDerivation.Text
