import Std.Data.TreeMap.Lemmas
import XsdDerivation.Members
import XsdDerivation.Resolution.Run

/-!
# Compiled schemas

Once every reference of a registry is resolved, the schema lists its complex types with all
that they offer. An index, which is kept in step with the list, finds types by their local names.
-/

namespace XsdDerivation

/-- A complex type of a compiled schema. -/
structure CompiledType extends Members where
  /-- The id of the type in its registry. -/
  id : TypeId
  /-- The name under which the type is registered. -/
  name : QualifiedName
  /-- The bases of the type, from the immediate base to the root. -/
  baseChain : List TypeId
  deriving DecidableEq, Repr

/-- A compiled schema: its complex types in the order of their registration. -/
structure Schema where
  /-- The complex types. -/
  types : List CompiledType
  /-- The position of the first type with each local name. -/
  byLocal : Std.TreeMap String Nat
  /-- The index says the same as the list. -/
  getElem?_byLocal : ∀ localPart,
    byLocal[localPart]? = types.findIdx? (·.name.localPart == localPart)

namespace Schema

/-! ### Building a schema -/

/-- The schema without types. -/
def empty : Schema where
  types := []
  byLocal := ∅
  getElem?_byLocal _ := Std.TreeMap.getElem?_emptyc

/-- Entering the position of a new last type keeps the index in step with the list. -/
theorem getElem?_insertIfNew_byLocal (schema : Schema) (type : CompiledType)
    (localPart : String) :
    (schema.byLocal.insertIfNew type.name.localPart schema.types.length)[localPart]? =
      (schema.types ++ [type]).findIdx? (·.name.localPart == localPart) := by
  rw [Std.TreeMap.getElem?_insertIfNew, List.findIdx?_append, ← schema.getElem?_byLocal]
  by_cases hname : type.name.localPart = localPart
  · subst hname
    simp only [Std.TreeMap.mem_iff_isSome_getElem?]
    cases schema.byLocal[type.name.localPart]? <;> simp
  · simp [hname, Std.LawfulEqCmp.compare_eq_iff_eq]

/-- The schema with one more type at the end. A local name keeps the position that it has. -/
def push (schema : Schema) (type : CompiledType) : Schema where
  types := schema.types ++ [type]
  byLocal := schema.byLocal.insertIfNew type.name.localPart schema.types.length
  getElem?_byLocal := schema.getElem?_insertIfNew_byLocal type

/-- The schema of a list of types. -/
def ofTypes (types : List CompiledType) : Schema :=
  types.foldl push empty

/-- The schema of a list of types lists these types. -/
@[simp] theorem types_ofTypes (types : List CompiledType) : (ofTypes types).types = types := by
  have hfold (schema : Schema) : (types.foldl push schema).types = schema.types ++ types := by
    induction types generalizing schema with
    | nil => exact (List.append_nil _).symm
    | cons type rest ih => rw [List.foldl_cons, ih, push, List.append_assoc, List.singleton_append]
  exact hfold empty

/-! ### Finding types -/

/-- The first registered type with this local name, in whatever namespace. -/
def get? (schema : Schema) (localPart : String) : Option CompiledType :=
  schema.byLocal[localPart]?.bind fun position => schema.types[position]?

/-- What the index finds is the first type of the list with the local name. -/
theorem get?_eq_find? (schema : Schema) (localPart : String) :
    schema.get? localPart = schema.types.find? (·.name.localPart == localPart) := by
  rw [get?, getElem?_byLocal, List.find?_eq_bind_findIdx?_getElem?]

/-- The type with this id. -/
def getById? (schema : Schema) (id : TypeId) : Option CompiledType :=
  schema.types.find? (·.id == id)

/-- The number of complex types. -/
def size (schema : Schema) : Nat :=
  schema.types.length

/-- Whether there is no complex type. -/
def isEmpty (schema : Schema) : Bool :=
  schema.types.isEmpty

/-! ### The schema of a registry -/

/-- What a registry offers for a registered type, if the type is complex. -/
def compileEntry? (registry : Registry) (id : TypeId) (entry : Entry) : Option CompiledType :=
  match entry.declaration with
  | .complex _ =>
    some { registry.members entry.declaration with
      id
      name := entry.name
      baseChain := registry.baseChain id }
  | _ => none

/-- The complex types of a registry, as far as its references are resolved. -/
def ofRegistry (registry : Registry) : Schema :=
  ofTypes (registry.types.filterMap fun (id, entry) => compileEntry? registry id entry)

end Schema

/-- Resolves a registry and compiles its schema. The registry keeps what has been recorded,
also where faults leave no schema. -/
def Registry.compile (registry : Registry) (config : Config) :
    Registry × Except (List Fault) Schema :=
  let resolution := registry.resolveAll config.failFast
  if resolution.faults.isEmpty then
    (resolution.registry, .ok (Schema.ofRegistry resolution.registry))
  else (resolution.registry, .error resolution.faults)

end XsdDerivation
