/-!
# Built-in types

The types that XML Schema itself provides, as far as a registry offers them.
-/

namespace XsdDerivation

/-- A built-in type. Registries offer those of `all`, and others may be registered like them. -/
structure Builtin where
  /-- The name of the type in the namespace of XML Schema. -/
  localPart : String
  /-- Whether values of the type are text. -/
  containsText : Bool
  deriving DecidableEq, Repr

namespace Builtin

/-- The built-in type of this name, the values of which are text. -/
def text (localPart : String) : Builtin :=
  ⟨localPart, true⟩

/-- The built-in type of this name, the values of which are not text. -/
def value (localPart : String) : Builtin :=
  ⟨localPart, false⟩

/-- The type of strings. -/
def string : Builtin :=
  text "string"

/-- The built-in types in the order in which registries list them. Text are the values of those
derived from strings, and URIs. -/
def all : List Builtin :=
  ["string", "normalizedString", "token", "anyURI", "language", "Name", "NCName", "NMTOKEN", "ID",
    "IDREF"].map text ++
  ["boolean", "decimal", "integer", "int", "long", "short", "byte", "nonNegativeInteger",
    "positiveInteger", "unsignedInt", "unsignedLong", "float", "double", "date", "dateTime", "time",
    "duration", "base64Binary", "hexBinary", "QName", "anyType"].map value

/-- The built-in type of a local name. -/
def ofLocalPart? (localPart : String) : Option Builtin :=
  all.find? (·.localPart == localPart)

/-- The text that shows the type in output. -/
def render (builtin : Builtin) : String :=
  "xsd:" ++ builtin.localPart

end Builtin

end XsdDerivation
