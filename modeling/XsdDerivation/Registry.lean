import Std.Data.TreeMap
import XsdDerivation.Config
import XsdDerivation.Fault
import XsdDerivation.Reference

/-!
# Registries

A registry holds the named types of a schema in the order of their registration, an index from
names to ids, and the bindings of namespace prefixes. References are resolved against it: a
prefixed one in the namespace of its prefix, any other in the target namespace.
-/

namespace XsdDerivation

/-- A registered type. -/
structure Entry where
  /-- The name under which the type is registered. -/
  name : QualifiedName
  /-- The type itself. -/
  declaration : Declaration
  deriving DecidableEq, Repr

/-- The types of a schema. -/
structure Registry where
  /-- The registered types. The id of a type is its position. -/
  entries : Array Entry
  /-- The id of each registered name. -/
  index : Std.TreeMap QualifiedName TypeId
  /-- The namespace of each bound prefix. -/
  bindings : Std.TreeMap String String
  /-- The namespace of types registered without one and of references without a prefix. -/
  targetNamespace : String

namespace Registry

/-- The registry without types, bindings and target namespace. -/
def empty : Registry where
  entries := #[]
  index := ∅
  bindings := ∅
  targetNamespace := ""

instance : Inhabited Registry := ⟨empty⟩

/-- The number of registered types. -/
def size (registry : Registry) : Nat :=
  registry.entries.size

/-- The ids in use, in order. -/
def ids (registry : Registry) : List TypeId :=
  (List.range registry.size).map TypeId.mk

/-- The type with this id. -/
def get? (registry : Registry) (id : TypeId) : Option Declaration :=
  registry.entries[id.index]?.map (·.declaration)

/-- Only the ids below the number of types are in use. -/
theorem lt_size_of_get? {registry : Registry} {id : TypeId} {declaration : Declaration}
    (hget : registry.get? id = some declaration) : id.index < registry.size := by
  rcases Nat.lt_or_ge id.index registry.size with h | h
  · exact h
  · simp [get?, Array.getElem?_eq_none h] at hget

/-- The name under which the type with this id is registered. -/
def nameOf? (registry : Registry) (id : TypeId) : Option QualifiedName :=
  registry.entries[id.index]?.map (·.name)

/-- The id of the type registered under a name. -/
def find? (registry : Registry) (name : QualifiedName) : Option TypeId :=
  registry.index[name]?

/-- Whether a type is registered under a name. -/
def contains (registry : Registry) (name : QualifiedName) : Bool :=
  registry.index.contains name

/-- The types in the order of their registration, each with its id. -/
def types (registry : Registry) : List (TypeId × Entry) :=
  registry.ids.zip registry.entries.toList

/-- The namespace to which a prefix is bound. -/
def namespaceOf? (registry : Registry) (qualifier : String) : Option String :=
  registry.bindings[qualifier]?

/-! ### Filling a registry -/

/-- Changes the target namespace. Types and bindings stay as they are. -/
def setTarget (registry : Registry) (space : String) : Registry :=
  { registry with targetNamespace := space }

/-- Binds a prefix to a namespace. A prefix keeps the namespace that it has. -/
def bind (registry : Registry) (qualifier space : String) : Except RegistrationFault Registry :=
  match registry.namespaceOf? qualifier with
  | none => .ok { registry with bindings := registry.bindings.insert qualifier space }
  | some existing =>
    if existing = space then .ok registry
    else .error (.conflictingBinding qualifier existing space)

/-- The registry with one more type, which gets the next id. -/
def append (registry : Registry) (name : QualifiedName) (declaration : Declaration) : Registry :=
  { registry with
    entries := registry.entries.push ⟨name, declaration⟩
    index := registry.index.insert name ⟨registry.size⟩ }

/-- Appending a type adds one to the number of types. -/
@[simp] theorem size_append (registry : Registry) (name : QualifiedName)
    (declaration : Declaration) :
    (registry.append name declaration).size = registry.size + 1 := by
  simp [size, append]

/-- The appended type has the next id, and the other types keep theirs. -/
theorem get?_append (registry : Registry) (name : QualifiedName) (declaration : Declaration)
    (id : TypeId) :
    (registry.append name declaration).get? id =
      if id.index = registry.size then some declaration else registry.get? id := by
  by_cases h : id.index = registry.size <;> simp_all [get?, append, size, Array.getElem?_push]

/-- The appended type is found under its name, and the other names stand for what they did. -/
theorem find?_append (registry : Registry) (name : QualifiedName) (declaration : Declaration)
    (other : QualifiedName) :
    (registry.append name declaration).find? other =
      if name = other then some ⟨registry.size⟩ else registry.find? other := by
  simp [find?, append, Std.TreeMap.getElem?_insert, Std.LawfulEqCmp.compare_eq_iff_eq]

/-- Registers a type under a name that no other type has. -/
def registerAs (registry : Registry) (name : QualifiedName) (declaration : Declaration) :
    Except RegistrationFault (TypeId × Registry) :=
  if registry.contains name then .error (.duplicateType name)
  else .ok (⟨registry.size⟩, registry.append name declaration)

/-- Registers a type under its declared name in the target namespace. -/
def register (registry : Registry) (declaration : Declaration) :
    Except RegistrationFault (TypeId × Registry) :=
  registry.registerAs ⟨registry.targetNamespace, declaration.name⟩ declaration

/-- Registers a built-in type, unless its name is taken. -/
def registerBuiltin (registry : Registry) (type : Builtin) : Registry :=
  let name : QualifiedName := ⟨xsdNamespace, type.localPart⟩
  if registry.contains name then registry else registry.append name (.builtin type)

/-- Registers the built-in types whose names are not taken, in their order. -/
def registerBuiltins (registry : Registry) : Registry :=
  Builtin.all.foldl registerBuiltin registry

/-- The registry with the built-in types and the configured prefixes of XML Schema. -/
def ofConfig (config : Config) : Registry :=
  let registry := empty.registerBuiltins
  { registry with
    bindings := config.xsdPrefixes.foldl (fun bindings qualifier =>
      bindings.insert qualifier xsdNamespace) registry.bindings }

/-- The registry with another declaration in the place of a registered one. -/
def replace (registry : Registry) (id : TypeId) (declaration : Declaration) : Registry :=
  { registry with
    entries := registry.entries.modify id.index fun entry =>
      { entry with declaration := declaration } }

/-- Replacing a declaration keeps the number of types. -/
@[simp] theorem size_replace (registry : Registry) (id : TypeId) (declaration : Declaration) :
    (registry.replace id declaration).size = registry.size := by
  simp [size, replace]

/-- Replacing the declaration of a registered type changes what its id gives and nothing
else. -/
theorem get?_replace (registry : Registry) (id other : TypeId) (declaration : Declaration) :
    (registry.replace id declaration).get? other =
      if id.index = other.index then (registry.get? other).map fun _ => declaration
      else registry.get? other := by
  simp only [get?, replace, Array.getElem?_modify]
  split <;> simp [Function.comp_def]

/-- Replacing a declaration keeps the names. -/
@[simp] theorem find?_replace (registry : Registry) (id : TypeId) (declaration : Declaration) :
    (registry.replace id declaration).find? = registry.find? :=
  rfl

/-! ### References -/

/-- The name that a reference stands for. An unbound prefix stands for no namespace. -/
def resolve? (registry : Registry) (text : String) : Option QualifiedName :=
  let reference := Reference.ofText text
  match reference.qualifier with
  | none => some ⟨registry.targetNamespace, reference.localPart⟩
  | some qualifier =>
    (registry.namespaceOf? qualifier).map fun space => ⟨space, reference.localPart⟩

/-- The id of the type to which a reference refers. -/
def findReferenced? (registry : Registry) (text : String) : Option TypeId :=
  (registry.resolve? text).bind registry.find?

/-- Replacing a declaration keeps what every reference refers to. -/
@[simp] theorem findReferenced?_replace (registry : Registry) (id : TypeId)
    (declaration : Declaration) :
    (registry.replace id declaration).findReferenced? = registry.findReferenced? :=
  rfl

end Registry

end XsdDerivation
