/-!
# Type ids

Types of a registry are numbered in the order of their registration, from 0.
-/

namespace XsdDerivation

/-- The number of a registered type. -/
structure TypeId where
  /-- The position of the type in its registry. -/
  index : Nat
  deriving DecidableEq, Repr

/-- The text that shows an id in output. -/
def TypeId.render (id : TypeId) : String :=
  "type_" ++ toString id.index

end XsdDerivation
