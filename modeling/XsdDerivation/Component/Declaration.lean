import XsdDerivation.Component.Attribute
import XsdDerivation.Component.Builtin
import XsdDerivation.Component.Element

/-!
# Type declarations

A type is built in, simple or complex. A complex type either lists its own elements or derives
its content from a base type. What resolving finds out is kept in the declaration itself: the
base of a derivation and the types of its elements.
-/

namespace XsdDerivation

/-- How a type is derived from its base. -/
inductive DerivationMethod where
  /-- The base type with additions. -/
  | extension
  /-- The base type with its content declared anew. -/
  | restriction
  deriving DecidableEq, Repr

/-- The content of a complex type that is derived from another type. -/
structure Derivation where
  /-- Extension or restriction. -/
  method : DerivationMethod
  /-- The reference to the base type, as written. -/
  base : String
  /-- The attributes declared on the derivation. -/
  attributes : List Attribute
  /-- The elements declared on the derivation. A derivation without a sequence differs from one
  with an empty sequence. -/
  sequence : Option (List Element)
  /-- Where the derivation is declared. -/
  position : Position
  /-- The type that the base reference was resolved to, once it has been. -/
  resolvedBase : Option TypeId
  deriving DecidableEq, Repr

/-- A simple type. Only its name matters here. -/
structure SimpleType where
  /-- The declared name. -/
  name : String
  /-- Where the type is declared. -/
  position : Position
  deriving DecidableEq, Repr

/-- A complex type. -/
structure ComplexType where
  /-- The declared name, empty for an anonymous type. -/
  name : String
  /-- Whether text may stand between the elements. -/
  mixed : Bool
  /-- The elements declared on the type itself. -/
  sequence : Option (List Element)
  /-- The attributes declared on the type itself. -/
  attributes : List Attribute
  /-- The derived content. -/
  content : Option Derivation
  /-- Where the type is declared. -/
  position : Position
  deriving DecidableEq, Repr

namespace ComplexType

/-- Whether the type has no name. -/
def isAnonymous (type : ComplexType) : Bool :=
  type.name == ""

/-- The anonymous type with these elements and nothing else. -/
def ofSequence (elements : List Element) : ComplexType where
  name := ""
  mixed := false
  sequence := some elements
  attributes := []
  content := none
  position := .unknown

/-- The anonymous type that consists of a derivation and nothing else. -/
def ofDerivation (content : Derivation) : ComplexType where
  name := ""
  mixed := false
  sequence := none
  attributes := []
  content := some content
  position := .unknown

end ComplexType

/-- The declaration of a type. -/
inductive Declaration where
  /-- A type of XML Schema itself. -/
  | builtin (type : Builtin)
  /-- A simple type. -/
  | simple (type : SimpleType)
  /-- A complex type. -/
  | complex (type : ComplexType)
  deriving DecidableEq, Repr

namespace Declaration

/-- The declared name. -/
def name : Declaration → String
  | .builtin type => type.localPart
  | .simple type => type.name
  | .complex type => type.name

/-- The complex type that is declared, if it is one. -/
def complexType? : Declaration → Option ComplexType
  | .complex type => some type
  | _ => none

/-- The derivation by which the type gets its content, if it is derived. -/
def derivation? (declaration : Declaration) : Option Derivation :=
  declaration.complexType?.bind (·.content)

/-- The base type recorded by resolving. -/
def recordedBase? (declaration : Declaration) : Option TypeId :=
  declaration.derivation?.bind (·.resolvedBase)

end Declaration

end XsdDerivation
