import XsdDerivation.Component.TypeId
import XsdDerivation.Identifier
import XsdDerivation.Position

/-!
# Element declarations

An element stands in the sequence of a type. It may name its own type, and once that name has
been resolved the element keeps the id of the type.
-/

namespace XsdDerivation

/-- How often an element may occur at most. -/
inductive MaxOccurs where
  /-- At most this many times. -/
  | bounded (count : Nat)
  /-- Any number of times. -/
  | unbounded
  deriving DecidableEq, Repr

/-- An element declared in a sequence. -/
structure Element where
  /-- The declared name. -/
  name : String
  /-- The generated identifier, by which elements are told apart. -/
  identifier : String
  /-- The reference to the type of the element, if it names one. -/
  typeReference : Option String
  /-- How often the element occurs at least. -/
  minOccurs : Nat
  /-- How often the element occurs at most. -/
  maxOccurs : MaxOccurs
  /-- Where the element is declared. -/
  position : Position
  /-- The type that the reference was resolved to, once it has been. -/
  resolvedType : Option TypeId
  deriving DecidableEq, Repr

namespace Element

/-- An element that occurs exactly once and names no type. -/
def named (name : String) : Element where
  name
  identifier := Identifier.ofName name
  typeReference := none
  minOccurs := 1
  maxOccurs := .bounded 1
  position := .unknown
  resolvedType := none

/-- Whether the element may occur more than once. -/
def isRepeated (element : Element) : Bool :=
  match element.maxOccurs with
  | .bounded count => 1 < count
  | .unbounded => true

/-- Whether the element may be left out. -/
def isOptional (element : Element) : Bool :=
  element.minOccurs == 0

end Element

end XsdDerivation
