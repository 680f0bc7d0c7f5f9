/-!
# Positions

Where in a schema document something is declared.
-/

namespace XsdDerivation

/-- A line and a column. Line 0 stands for an unknown place. -/
structure Position where
  /-- The line, from 1. -/
  line : Nat
  /-- The column in the line. -/
  column : Nat
  deriving DecidableEq, Repr

namespace Position

/-- The position of something whose place is not known. -/
def unknown : Position := ⟨0, 0⟩

instance : Inhabited Position := ⟨unknown⟩

/-- Whether the place is known. -/
def isKnown (position : Position) : Bool :=
  position.line != 0

/-- The line and the column with a colon between them. -/
def render (position : Position) : String :=
  if position.isKnown then toString position.line ++ ":" ++ toString position.column
  else "<unknown>"

end Position

end XsdDerivation
