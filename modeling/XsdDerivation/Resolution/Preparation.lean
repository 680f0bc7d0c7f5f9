import XsdDerivation.Registry

/-!
# Preparing declarations

The part of resolving a declaration that needs the registry only: finding the types of its
elements and finding its base. What remains is to resolve the base and to record it.
-/

namespace XsdDerivation

/-! ### Elements -/

/-- Resolves the type reference of an element. A type that is recorded already stays. -/
def Element.resolve (registry : Registry) (element : Element) : Element × Option Fault :=
  match element.typeReference, element.resolvedType with
  | some reference, none =>
    match registry.findReferenced? reference with
    | some id => ({ element with resolvedType := some id }, none)
    | none => (element, some (.unknownElementType reference element.name element.position))
  | _, _ => (element, none)

/-- Resolves elements in order, up to the first fault. Those before it stay resolved. -/
def resolveElements (registry : Registry) : List Element → List Element × Option Fault
  | [] => ([], none)
  | element :: rest =>
    match element.resolve registry with
    | (element, some fault) => (element :: rest, some fault)
    | (element, none) =>
      let (rest, fault) := resolveElements registry rest
      (element :: rest, fault)

/-- Resolves the elements of a sequence, if there is one. -/
def resolveSequence (registry : Registry) :
    Option (List Element) → Option (List Element) × Option Fault
  | none => (none, none)
  | some elements =>
    let (elements, fault) := resolveElements registry elements
    (some elements, fault)

/-! ### Declarations -/

/-- What remains to be done for a declaration whose elements have been dealt with. -/
inductive Remainder where
  /-- Nothing. -/
  | nothing
  /-- The base type has to be resolved and recorded. -/
  | base (id : TypeId)
  /-- Nothing can be done because of a fault. -/
  | fault (fault : Fault)
  deriving DecidableEq, Repr

namespace Derivation

/-- The base to be resolved, or why there is none. `parent` is the enclosing element. -/
def findBase (registry : Registry) (parent : Option Element) (derivation : Derivation) :
    Remainder :=
  if Reference.isBlank derivation.base then
    .fault (.emptyBase (parent.map (·.name)) derivation.position)
  else
    match registry.findReferenced? derivation.base with
    | none => .fault (.unknownBase derivation.base derivation.position)
    | some id => .base id

/-- Resolves the elements of a derivation and finds its base. A derivation with a recorded base
is left as it is. -/
def prepare (registry : Registry) (parent : Option Element) (derivation : Derivation) :
    Derivation × Remainder :=
  if derivation.resolvedBase.isSome then (derivation, .nothing)
  else
    match resolveSequence registry derivation.sequence with
    | (sequence, some fault) => ({ derivation with sequence }, .fault fault)
    | (sequence, none) => ({ derivation with sequence }, derivation.findBase registry parent)

end Derivation

/-- Resolves the elements of a complex type, first its own and then those of its content, and
finds its base. -/
def ComplexType.prepare (registry : Registry) (parent : Option Element) (type : ComplexType) :
    ComplexType × Remainder :=
  match resolveSequence registry type.sequence with
  | (sequence, some fault) => ({ type with sequence }, .fault fault)
  | (sequence, none) =>
    match type.content with
    | none => ({ type with sequence }, .nothing)
    | some derivation =>
      let (derivation, remainder) := derivation.prepare registry parent
      ({ type with sequence, content := some derivation }, remainder)

namespace Declaration

/-- Resolves the elements of a declaration and finds its base. Only complex types have any. -/
def prepare (registry : Registry) (parent : Option Element) :
    Declaration → Declaration × Remainder
  | .complex type =>
    let (type, remainder) := type.prepare registry parent
    (.complex type, remainder)
  | declaration => (declaration, .nothing)

/-- Records the base of a derived type. -/
def recordBase (base : TypeId) : Declaration → Declaration
  | .complex type =>
    .complex { type with
      content := type.content.map fun derivation =>
        { derivation with resolvedBase := some base } }
  | declaration => declaration

end Declaration

end XsdDerivation
