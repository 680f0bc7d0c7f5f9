import XsdDerivation.Component.Declaration
import XsdDerivation.QualifiedName

/-!
# Faults

What can go wrong while a registry is filled and while its references are resolved. Each
fault is a cause with the data that describes it; its wording is given by `message`.
-/

namespace XsdDerivation

/-- Why a registry refuses an entry. -/
inductive RegistrationFault where
  /-- A type is already registered under the name. -/
  | duplicateType (name : QualifiedName)
  /-- The namespace prefix is already bound to another namespace. -/
  | conflictingBinding (qualifier existing requested : String)
  deriving DecidableEq, Repr

namespace RegistrationFault

/-- The wording of the fault. -/
def message : RegistrationFault → String
  | duplicateType name => "duplicate type: " ++ name.render
  | conflictingBinding qualifier existing requested =>
    "prefix '" ++ qualifier ++ "' is bound to '" ++ existing ++ "', cannot rebind to '" ++
      requested ++ "'"

end RegistrationFault

/-- Why a type cannot be resolved. -/
inductive Fault where
  /-- A derivation has a blank base reference. `element` is the name of the element in which the
  type is declared, if there is one. -/
  | emptyBase (element : Option String) (position : Position)
  /-- The base reference of a derivation names no registered type. -/
  | unknownBase (reference : String) (position : Position)
  /-- Following base references leads back to the type with this declared name. -/
  | circularDerivation (name : String)
  /-- The type reference of an element names no registered type. -/
  | unknownElementType (reference element : String) (position : Position)
  deriving DecidableEq, Repr

namespace Fault

/-- Where the fault was found. A circular derivation has no place. -/
def position : Fault → Position
  | emptyBase _ position => position
  | unknownBase _ position => position
  | circularDerivation _ => .unknown
  | unknownElementType _ _ position => position

/-- The reference that could not be followed, if the fault is about one. -/
def reference? : Fault → Option String
  | emptyBase _ _ => some ""
  | unknownBase reference _ => some reference
  | circularDerivation _ => none
  | unknownElementType reference _ _ => some reference

/-- The wording of the fault. -/
def message : Fault → String
  | emptyBase element position =>
    "at " ++ position.render ++ ": derivation without base type" ++
      match element with
      | some name => " in element '" ++ name ++ "'"
      | none => ""
  | unknownBase reference position =>
    "at " ++ position.render ++ ": unknown base type '" ++ reference ++ "'"
  | circularDerivation name => "circular type derivation through '" ++ name ++ "'"
  | unknownElementType reference element position =>
    "at " ++ position.render ++ ": element '" ++ element ++ "' has unknown type '" ++
      reference ++ "'"

/-- The wording of a failure with this many faults. -/
def failureMessage (count : Nat) : String :=
  "schema compilation failed with " ++ toString count ++ " error(s)"

end Fault

end XsdDerivation
