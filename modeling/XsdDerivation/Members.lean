import Std.Data.TreeSet
import XsdDerivation.Ancestry

/-!
# Effective members

What a type offers once its bases are known: its elements with the inherited ones first, its
attributes with their collisions marked, and whether it carries text. All three are read off
the lineage of the type, which is the type followed by its recorded ancestors.
-/

namespace XsdDerivation

/-- The elements whose identifier is neither taken nor that of an element before them. -/
def keepUntaken (taken : Std.TreeSet String) : List Element → List Element
  | [] => []
  | element :: rest =>
    if taken.contains element.identifier then keepUntaken taken rest
    else element :: keepUntaken (taken.insert element.identifier) rest

/-- The first element of each identifier, in order. -/
def keepFirst (elements : List Element) : List Element :=
  keepUntaken ∅ elements

/-- Marks each attribute whose identifier is taken or is that of an attribute before it. -/
def markCollisions (taken : Std.TreeSet String) : List Attribute → List Attribute
  | [] => []
  | attr :: rest =>
    (if taken.contains attr.identifier then attr.collide else attr) ::
      markCollisions (taken.insert attr.identifier) rest

namespace Lineage

/-- The elements of the first type of a lineage. A restriction declares its elements anew. An
extension adds its own to the inherited ones, and of elements with one identifier the first
stays; where no base is known its own elements stay as declared. -/
def elements : List Declaration → List Element
  | [] => []
  | .builtin _ :: _ => []
  | .simple _ :: _ => []
  | .complex type :: bases =>
    match type.content with
    | none => type.sequence.getD []
    | some derivation =>
      match derivation.method, bases, derivation.sequence with
      | .restriction, _, sequence => sequence.getD []
      | .extension, [], sequence => sequence.getD []
      | .extension, base :: others, none => elements (base :: others)
      | .extension, base :: others, some own => keepFirst (elements (base :: others) ++ own)

/-- The attributes of the first type of a lineage: those declared on the type itself, then
those of its derivation. An extension marks the ones that collide with its elements or with an
attribute before them. -/
def attributes : List Declaration → List Attribute
  | .complex type :: bases =>
    type.attributes ++
      match type.content with
      | none => []
      | some derivation =>
        match derivation.method with
        | .restriction => derivation.attributes
        | .extension =>
          let taken := (elements (.complex type :: bases)).map (·.identifier)
          markCollisions (.ofList taken) derivation.attributes
  | _ => []

/-- Whether the first type of a lineage carries text: a simple type does, some built-in types
do, and a complex type does if it is mixed, if its base is written `xsd:string`, or if its base
carries text. -/
def containsText : List Declaration → Bool
  | [] => false
  | .builtin type :: _ => type.containsText
  | .simple _ :: _ => true
  | .complex type :: bases =>
    type.mixed ||
      match type.content with
      | none => false
      | some derivation => derivation.base == "xsd:string" || containsText bases

end Lineage

/-- What a type offers. -/
structure Members where
  /-- The elements, inherited ones first. -/
  elements : List Element
  /-- The attributes, with their collisions marked. -/
  attributes : List Attribute
  /-- Whether the type carries text. -/
  containsText : Bool
  deriving DecidableEq, Repr

/-- What a declaration offers, as far as its bases are recorded in the registry. -/
def Registry.members (registry : Registry) (declaration : Declaration) : Members :=
  let lineage := registry.lineage declaration
  ⟨Lineage.elements lineage, Lineage.attributes lineage, Lineage.containsText lineage⟩

end XsdDerivation
