import XsdDerivation.Identifier
import XsdDerivation.Position

/-!
# Attribute declarations
-/

namespace XsdDerivation

/-- Whether an attribute may, must or must not be present. -/
inductive AttributeUse where
  /-- The attribute may be left out. -/
  | optional
  /-- The attribute has to be present. -/
  | required
  /-- The attribute must not be present. -/
  | prohibited
  deriving DecidableEq, Repr

/-- An attribute declared on a type. -/
structure Attribute where
  /-- The declared name. -/
  name : String
  /-- The generated identifier, by which collisions are found. -/
  identifier : String
  /-- The reference to the type of the attribute, if it names one. -/
  typeReference : Option String
  /-- Whether the attribute has to be present. -/
  usage : AttributeUse
  /-- The value taken when the attribute is left out. -/
  defaultValue : Option String
  /-- The only value allowed. -/
  fixedValue : Option String
  /-- The mark by which generated code tells this attribute from other members with its
  identifier. Zero means that there is no such member before it. -/
  duplicates : UInt32
  /-- Where the attribute is declared. -/
  position : Position
  deriving DecidableEq, Repr

namespace Attribute

/-- An optional attribute without a type, a value or a collision. -/
def named (name : String) : Attribute where
  name
  identifier := Identifier.ofName name
  typeReference := none
  usage := .optional
  defaultValue := none
  fixedValue := none
  duplicates := 0
  position := .unknown

/-- Whether the attribute has to be present. -/
def isRequired (attr : Attribute) : Bool :=
  attr.usage == .required

/-- Whether the attribute is marked as colliding with a member before it. -/
def isDuplicate (attr : Attribute) : Bool :=
  attr.duplicates != 0

/-- The attribute with its collision mark raised. An unmarked attribute gets 2, as the second
member of its identifier; a mark that is there already goes up by 1, and the largest one to 0. -/
def collide (attr : Attribute) : Attribute :=
  { attr with
    duplicates := if attr.duplicates = 0 then 2 else attr.duplicates + 1 }

end Attribute

end XsdDerivation
