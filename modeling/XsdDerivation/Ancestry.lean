import XsdDerivation.Path
import XsdDerivation.Registry

/-!
# Ancestry

The recorded bases of a type, from its immediate base to the root, and the declarations behind
them.
-/

namespace XsdDerivation.Registry

/-- The base recorded for the type with this id. -/
def recordedBase? (registry : Registry) (id : TypeId) : Option TypeId :=
  (registry.get? id).bind Declaration.recordedBase?

/-- Only registered types have a recorded base. -/
theorem lt_size_of_recordedBase? {registry : Registry} (id base : TypeId)
    (hbase : registry.recordedBase? id = some base) : id.index < registry.size := by
  obtain ⟨declaration, hget, -⟩ := Option.bind_eq_some_iff.mp hbase
  exact lt_size_of_get? hget

/-- The type with this id and its recorded bases, up to the first that repeats. -/
def recordedPath (registry : Registry) (id : TypeId) : List TypeId :=
  path registry.size registry.recordedBase? lt_size_of_recordedBase? [] id

/-- The recorded bases of the type with this id, from the immediate base to the root. -/
def baseChain (registry : Registry) (id : TypeId) : List TypeId :=
  (registry.recordedPath id).tail

/-- The declarations of the recorded bases of a declaration, nearest first. -/
def ancestors (registry : Registry) (declaration : Declaration) : List Declaration :=
  match declaration.recordedBase? with
  | none => []
  | some base => (registry.recordedPath base).filterMap registry.get?

/-- A declaration followed by its ancestors. -/
def lineage (registry : Registry) (declaration : Declaration) : List Declaration :=
  declaration :: registry.ancestors declaration

end XsdDerivation.Registry
