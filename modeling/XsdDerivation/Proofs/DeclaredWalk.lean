import XsdDerivation.Ancestry
import XsdDerivation.Proofs.Declared
import XsdDerivation.Proofs.Walk

/-!
# Walks along declared bases

The declared references of a registry say which types have a fault of their own and which type
each derivation is based on. Following bases from a type until one has a fault, has no base, or
was met before decides what becomes of it, whatever has been recorded so far.
-/

namespace XsdDerivation

namespace Registry

/-- The registry with every declaration changed. -/
def mapDeclarations (change : Declaration → Declaration) (registry : Registry) : Registry :=
  { registry with
    entries := registry.entries.map fun entry =>
      { entry with declaration := change entry.declaration } }

/-- The registry without anything recorded. -/
def forget (registry : Registry) : Registry := registry.mapDeclarations Declaration.forget

/-- The registry with everything recorded that its references name. -/
def resolved (registry : Registry) : Registry :=
  registry.mapDeclarations (Declaration.resolved registry.findReferenced?)

/-- The type that the base reference of a type names. -/
def declaredBase? (registry : Registry) (id : TypeId) : Option TypeId :=
  (registry.get? id).bind (Declaration.base? registry.findReferenced?)

/-- The first fault of a type itself: a type reference of one of its elements that names
nothing, in the order of declaration, or else a base reference that is blank or names nothing.
`parent` is the enclosing element. -/
def localFault? (registry : Registry) (parent : Option Element) (id : TypeId) : Option Fault :=
  (registry.get? id).bind (Declaration.fault? registry.findReferenced? parent)

/-- The declared name of a type. -/
def declaredName (registry : Registry) (id : TypeId) : String :=
  (registry.get? id).elim "" Declaration.name

/-- The type to which a walk along declared bases goes on. A type with a fault ends it. -/
def nextBase? (registry : Registry) (id : TypeId) : Option TypeId :=
  if (registry.localFault? none id).isSome then none else registry.declaredBase? id

section Maps

variable {change : Declaration → Declaration} {registry : Registry}

@[simp] theorem size_mapDeclarations : (registry.mapDeclarations change).size = registry.size := by
  simp [size, mapDeclarations]

@[simp] theorem get?_mapDeclarations (id : TypeId) :
    (registry.mapDeclarations change).get? id = (registry.get? id).map change := by
  simp [get?, mapDeclarations, Function.comp_def]

@[simp] theorem size_forget : registry.forget.size = registry.size := size_mapDeclarations

@[simp] theorem get?_forget (id : TypeId) :
    registry.forget.get? id = (registry.get? id).map Declaration.forget :=
  get?_mapDeclarations id

@[simp] theorem findReferenced?_forget :
    registry.forget.findReferenced? = registry.findReferenced? := rfl

@[simp] theorem get?_resolved (id : TypeId) : registry.resolved.get? id =
    (registry.get? id).map (Declaration.resolved registry.findReferenced?) :=
  get?_mapDeclarations id

/-- Resolving records the declared bases. -/
theorem recordedBase?_resolved : registry.resolved.recordedBase? = registry.declaredBase? := by
  funext id
  rw [recordedBase?, get?_resolved, Option.bind_map]
  exact congrArg _ (funext fun declaration => declaration.recordedBase?_resolved)

@[simp] theorem forget_resolved : registry.resolved.forget = registry.forget := by
  simp [resolved, forget, mapDeclarations, Function.comp_def]

@[simp] theorem resolved_forget : registry.forget.resolved = registry.resolved := by
  rw [resolved, findReferenced?_forget]
  simp [resolved, forget, mapDeclarations, Function.comp_def]

@[simp] theorem declaredBase?_forget : registry.forget.declaredBase? = registry.declaredBase? := by
  funext id
  rw [declaredBase?, get?_forget, Option.bind_map]
  exact congrArg _ (funext fun declaration => declaration.base?_forget)

@[simp] theorem localFault?_forget : registry.forget.localFault? = registry.localFault? := by
  funext parent id
  rw [localFault?, get?_forget, Option.bind_map]
  exact congrArg _ (funext fun declaration => declaration.fault?_forget parent)

@[simp] theorem declaredName_forget : registry.forget.declaredName = registry.declaredName := by
  funext id
  cases h : registry.get? id <;> simp [declaredName, h]

@[simp] theorem nextBase?_forget : registry.forget.nextBase? = registry.nextBase? := by
  funext id
  simp [nextBase?]

end Maps

/-! ### Registries with the same declarations -/

section SameDeclarations

variable {registry other : Registry} (hsame : registry.forget = other.forget)

include hsame

theorem size_eq_of_forget : registry.size = other.size := by
  rw [← size_forget, hsame, size_forget]

theorem findReferenced?_eq_of_forget : registry.findReferenced? = other.findReferenced? := by
  rw [← findReferenced?_forget, hsame, findReferenced?_forget]

theorem declaredBase?_eq_of_forget : registry.declaredBase? = other.declaredBase? := by
  rw [← declaredBase?_forget, hsame, declaredBase?_forget]

theorem localFault?_eq_of_forget : registry.localFault? = other.localFault? := by
  rw [← localFault?_forget, hsame, localFault?_forget]

theorem declaredName_eq_of_forget : registry.declaredName = other.declaredName := by
  rw [← declaredName_forget, hsame, declaredName_forget]

theorem nextBase?_eq_of_forget : registry.nextBase? = other.nextBase? := by
  rw [← nextBase?_forget, hsame, nextBase?_forget]

/-- The declarations of a type differ in what is recorded only. -/
theorem get?_forget_eq_of_forget (id : TypeId) :
    (registry.get? id).map Declaration.forget = (other.get? id).map Declaration.forget := by
  rw [← get?_forget, hsame, get?_forget]

end SameDeclarations

/-! ### Registered types -/

/-- An id is in use exactly if it is below the number of types. -/
theorem get?_ne_none_iff {registry : Registry} {id : TypeId} :
    registry.get? id ≠ none ↔ id.index < registry.size := by
  simp [get?, size]

/-- The ids in use are those of the registered types. -/
theorem mem_ids_iff {registry : Registry} {id : TypeId} :
    id ∈ registry.ids ↔ registry.get? id ≠ none := by
  rw [get?_ne_none_iff, ids, List.mem_map]
  constructor
  · rintro ⟨index, hindex, rfl⟩
    exact List.mem_range.mp hindex
  · exact fun h => ⟨id.index, List.mem_range.mpr h, rfl⟩

/-- Every registered name stands for a registered type. -/
def Indexed (registry : Registry) : Prop :=
  ∀ name id, registry.find? name = some id → id.index < registry.size

/-- Whether a registry is indexed does not depend on what is recorded. -/
theorem Indexed.of_forget {registry other : Registry} (hindexed : registry.Indexed)
    (hsame : other.forget = registry.forget) : other.Indexed := by
  have hfind : other.find? = registry.find? := by
    have hforget : other.forget.find? = registry.forget.find? := by rw [hsame]
    exact hforget
  intro name id hname
  rw [size_eq_of_forget hsame]
  exact hindexed name id (hfind ▸ hname)

/-- References of an indexed registry name registered types only. -/
theorem Indexed.get?_ne_none {registry : Registry} (hindexed : registry.Indexed)
    {reference : String} {id : TypeId} (hfind : registry.findReferenced? reference = some id) :
    registry.get? id ≠ none := by
  obtain ⟨name, _, hname⟩ := Option.bind_eq_some_iff.mp hfind
  exact get?_ne_none_iff.mpr (hindexed name id hname)

/-- Only registered types have a declared base. -/
theorem lt_size_of_declaredBase? {registry : Registry} (id base : TypeId)
    (hbase : registry.declaredBase? id = some base) : id.index < registry.size := by
  obtain ⟨declaration, hget, _⟩ := Option.bind_eq_some_iff.mp hbase
  exact lt_size_of_get? hget

/-- The declared bases of an indexed registry are registered. -/
theorem Indexed.declaredBase?_registered {registry : Registry} (hindexed : registry.Indexed)
    {id base : TypeId} (hbase : registry.declaredBase? id = some base) :
    registry.get? base ≠ none := by
  obtain ⟨declaration, _, hdeclared⟩ := Option.bind_eq_some_iff.mp hbase
  obtain ⟨derivation, _, hbase⟩ := Option.bind_eq_some_iff.mp hdeclared
  unfold Derivation.base? at hbase
  split at hbase
  · cases hbase
  · exact hindexed.get?_ne_none hbase

/-- A walk goes on to declared bases only. -/
theorem declaredBase?_of_nextBase? {registry : Registry} {id base : TypeId}
    (hnext : registry.nextBase? id = some base) :
    registry.localFault? none id = none ∧ registry.declaredBase? id = some base := by
  unfold nextBase? at hnext
  split at hnext
  · cases hnext
  · rename_i hfault
    exact ⟨by simpa using hfault, hnext⟩

theorem lt_size_of_nextBase? {registry : Registry} (id base : TypeId)
    (hnext : registry.nextBase? id = some base) : id.index < registry.size :=
  lt_size_of_declaredBase? id base (declaredBase?_of_nextBase? hnext).2

/-! ### Walks and their ends -/

/-- The types met by following declared bases from a type. The walk ends at a type with a fault
of its own, at a type without a base, or before a type that it has met. -/
def walk (registry : Registry) (id : TypeId) : List TypeId :=
  path registry.size registry.nextBase? lt_size_of_nextBase? [] id

/-- How the walk from a type ends. -/
def walkEnd (registry : Registry) (id : TypeId) : Ending :=
  ending registry.size registry.nextBase? lt_size_of_nextBase? [] id

/-- The fault at the end of a walk: the local fault of the type at which it stops, or that the
derivation of the first type it meets again is circular. -/
def endFault? (registry : Registry) (parent : Option Element) : Ending → Option Fault
  | .stop last => registry.localFault? parent last
  | .loop entry => some (.circularDerivation (registry.declaredName entry))

/-- The fault at the end of the walk from a type. -/
def walkFault? (registry : Registry) (parent : Option Element) (id : TypeId) : Option Fault :=
  registry.endFault? parent (registry.walkEnd id)

/-- The fault at the end of a walk does not depend on what is recorded. -/
theorem walkFault?_eq_of_forget {registry other : Registry}
    (hsame : registry.forget = other.forget) : registry.walkFault? = other.walkFault? := by
  funext parent id
  have hend : registry.walkEnd id = other.walkEnd id :=
    ending_congr (size_eq_of_forget hsame) (nextBase?_eq_of_forget hsame)
  rw [walkFault?, walkFault?, hend]
  unfold endFault?
  rw [localFault?_eq_of_forget hsame, declaredName_eq_of_forget hsame]

/-- Whether a type has a fault does not depend on the enclosing element. -/
theorem localFault?_eq_none_iff {registry : Registry} {parent : Option Element} {id : TypeId} :
    registry.localFault? parent id = none ↔ registry.localFault? none id = none := by
  unfold localFault?
  cases registry.get? id with
  | none => rfl
  | some declaration =>
    rw [Option.bind_some, Option.bind_some, Declaration.fault?_eq_none_iff,
      Declaration.fault?_eq_none_iff]

end Registry

end XsdDerivation
