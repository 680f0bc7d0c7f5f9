import XsdDerivation.Proofs.Recording
import XsdDerivation.Proofs.Repetition

/-!
# Types listed in a schema

A schema lists the complex types of its registry and no others. Their positions in the list are not
their ids, since the other types are left out, but the order is the same. So the first type in the
list with a local name, which is the one that the index finds, has the smallest id.
-/

namespace XsdDerivation

/-! ### Complex types of a registry -/

namespace Registry

variable {registry other : Registry} {id : TypeId}

/-- Whether the type with this id is complex. -/
def isComplex (registry : Registry) (id : TypeId) : Bool :=
  (registry.get? id).any (·.complexType?.isSome)

/-- A complex type is registered under the local name with this id, in some namespace. -/
def HasComplex (registry : Registry) (localPart : String) (id : TypeId) : Prop :=
  registry.isComplex id = true ∧ ∃ space, registry.nameOf? id = some ⟨space, localPart⟩

theorem isComplex_iff :
    registry.isComplex id = true ↔ ∃ complex, registry.get? id = some (.complex complex) := by
  rw [isComplex]
  cases hget : registry.get? id with
  | none => simp
  | some declaration => cases declaration <;> simp [Declaration.complexType?]

/-- What is recorded does not matter for which types are complex. -/
theorem isComplex_eq_of_forget (hsame : registry.forget = other.forget) :
    registry.isComplex = other.isComplex := by
  funext id
  have hforget (registry : Registry) :
      registry.isComplex id = ((registry.get? id).map Declaration.forget).any
        (·.complexType?.isSome) := by
    rw [isComplex]
    cases registry.get? id with
    | none => rfl
    | some declaration => cases declaration <;> rfl
  rw [hforget, hforget, get?_forget_eq_of_forget hsame]

theorem pairwise_ids (registry : Registry) :
    registry.ids.Pairwise fun id other => id.index < other.index := by
  rw [ids, List.pairwise_map]
  exact List.pairwise_lt_range

/-- What is compiled has the id of a complex type. -/
theorem map_id_compiled? (id : TypeId) :
    (registry.compiled? id).map (·.id) = Option.guard registry.isComplex id := by
  rw [compiled?, Option.guard, isComplex, get?]
  cases registry.entries[id.index]? with
  | none => rfl
  | some entry =>
    rw [Option.bind_some, Option.map_some, Option.any_some]
    unfold Schema.compileEntry?
    cases entry.declaration <;> rfl

/-- The ids of the listed types are those of the complex types, in order. -/
theorem ids_ofRegistry (registry : Registry) :
    (Schema.ofRegistry registry).types.map (·.id) = registry.ids.filter registry.isComplex := by
  have hids : (fun id => (registry.compiled? id).map (·.id)) = Option.guard registry.isComplex :=
    funext map_id_compiled?
  rw [types_ofRegistry, List.map_filterMap, hids, List.filterMap_eq_filter]

end Registry

/-! ### Listed types -/

namespace Schema

section Increasing

variable {schema : Schema} {type other : CompiledType}
  (hincreasing : schema.types.Pairwise fun type other => type.id.index < other.id.index)

include hincreasing

/-- Types are told apart by their ids. -/
theorem eq_of_id_eq (hmem : type ∈ schema.types) (hother : other ∈ schema.types)
    (hid : type.id = other.id) : type = other := by
  obtain ⟨before, after, hsplit⟩ := List.append_of_mem hmem
  rw [hsplit, List.pairwise_append, List.pairwise_cons] at hincreasing
  rw [hsplit, List.mem_append, List.mem_cons] at hother
  rcases hother with hbefore | rfl | hafter
  · have hlt := hincreasing.2.2 other hbefore type (List.mem_cons_self ..)
    rw [hid] at hlt
    exact absurd hlt (Nat.lt_irrefl _)
  · rfl
  · have hlt := hincreasing.2.1.1 other hafter
    rw [hid] at hlt
    exact absurd hlt (Nat.lt_irrefl _)

theorem getById?_eq_some_iff (id : TypeId) :
    schema.getById? id = some type ↔ type ∈ schema.types ∧ type.id = id := by
  constructor
  · intro hfound
    exact ⟨List.mem_of_find?_eq_some hfound, by simpa using List.find?_some hfound⟩
  · rintro ⟨hmem, rfl⟩
    have hsome : (schema.getById? type.id).isSome = true :=
      List.find?_isSome.mpr ⟨type, hmem, by simp⟩
    obtain ⟨found, hfound⟩ := Option.isSome_iff_exists.mp hsome
    have hid : found.id = type.id := by simpa using List.find?_some hfound
    rw [hfound, eq_of_id_eq hincreasing (List.mem_of_find?_eq_some hfound) hmem hid]

/-- The first type with a local name comes before the others in the order of the ids. -/
theorem le_of_get? {localPart : String} (hfound : schema.get? localPart = some type)
    (hother : other ∈ schema.types) (hname : other.name.localPart = localPart) :
    type.id.index ≤ other.id.index := by
  rw [get?_eq_find?] at hfound
  obtain ⟨-, before, after, hsplit, hbefore⟩ := List.find?_eq_some_iff_append.mp hfound
  rw [hsplit, List.pairwise_append, List.pairwise_cons] at hincreasing
  rw [hsplit, List.mem_append, List.mem_cons] at hother
  rcases hother with hmem | rfl | hmem
  · have hnot := hbefore other hmem
    simp [hname] at hnot
  · exact Nat.le_refl _
  · exact Nat.le_of_lt (hincreasing.2.1.1 other hmem)

theorem get?_eq_some_iff (localPart : String) :
    schema.get? localPart = some type ↔
      type ∈ schema.types ∧ type.name.localPart = localPart ∧
        ∀ other ∈ schema.types, other.name.localPart = localPart →
          type.id.index ≤ other.id.index := by
  have hmem_of_get? {type : CompiledType} (hfound : schema.get? localPart = some type) :
      type ∈ schema.types ∧ type.name.localPart = localPart := by
    rw [get?_eq_find?] at hfound
    exact ⟨List.mem_of_find?_eq_some hfound, by simpa using List.find?_some hfound⟩
  constructor
  · intro hfound
    obtain ⟨hmem, hname⟩ := hmem_of_get? hfound
    exact ⟨hmem, hname, fun other => le_of_get? hincreasing hfound⟩
  · rintro ⟨hmem, hname, hleast⟩
    have hsome : (schema.get? localPart).isSome = true := by
      rw [get?_eq_find?]
      exact List.find?_isSome.mpr ⟨type, hmem, by simp [hname]⟩
    obtain ⟨found, hfound⟩ := Option.isSome_iff_exists.mp hsome
    obtain ⟨hfoundMem, hfoundName⟩ := hmem_of_get? hfound
    have hindex : found.id.index = type.id.index :=
      Nat.le_antisymm (le_of_get? hincreasing hfound hmem hname)
        (hleast found hfoundMem hfoundName)
    have hid : found.id = type.id := congrArg TypeId.mk hindex
    rw [hfound, eq_of_id_eq hincreasing hfoundMem hmem hid]

end Increasing

/-- The schema lists the complex types of the registry. -/
structure Lists (schema : Schema) (registry : Registry) : Prop where
  /-- Each complex type is listed once, and no other type is. -/
  ids : schema.types.map (·.id) = registry.ids.filter registry.isComplex
  /-- The ids increase along the list. -/
  increasing : schema.types.Pairwise fun type other => type.id.index < other.id.index
  /-- The types have the names under which they are registered. -/
  names : ∀ type ∈ schema.types, registry.nameOf? type.id = some type.name
  /-- An id stands for the type that has it. -/
  getById?_iff : ∀ id type, schema.getById? id = some type ↔ type ∈ schema.types ∧ type.id = id
  /-- So it stands for a type exactly if it is that of a complex type. -/
  isSome_getById? : ∀ id, (schema.getById? id).isSome = registry.isComplex id
  /-- A local name stands for the type with the smallest id that has it, in whatever namespace. -/
  get?_iff : ∀ localPart type, schema.get? localPart = some type ↔
    type ∈ schema.types ∧ registry.HasComplex localPart type.id ∧
      ∀ id, registry.HasComplex localPart id → type.id.index ≤ id.index
  /-- It stands for nothing exactly if no complex type has it. -/
  get?_eq_none_iff : ∀ localPart, schema.get? localPart = none ↔
    ∀ id, ¬registry.HasComplex localPart id
  /-- It is looked up in the index, which finds the first type of the list that has it. -/
  get?_eq : ∀ localPart,
    schema.get? localPart = schema.types.find? (·.name.localPart == localPart)

/-- Which types are complex and what their names are does not depend on what is recorded. -/
theorem Lists.of_forget {schema : Schema} {registry other : Registry}
    (hlists : schema.Lists registry) (hsame : registry.forget = other.forget) :
    schema.Lists other := by
  have hcomplex := Registry.isComplex_eq_of_forget hsame
  have hnames := Registry.nameOf?_eq_of_forget hsame
  have hhas : registry.HasComplex = other.HasComplex := by
    funext localPart id
    rw [Registry.HasComplex, Registry.HasComplex, hcomplex, hnames]
  exact {
    ids := by rw [hlists.ids, Registry.ids_eq_of_forget hsame, hcomplex]
    increasing := hlists.increasing
    names := hnames ▸ hlists.names
    getById?_iff := hlists.getById?_iff
    isSome_getById? := hcomplex ▸ hlists.isSome_getById?
    get?_iff := hhas ▸ hlists.get?_iff
    get?_eq_none_iff := hhas ▸ hlists.get?_eq_none_iff
    get?_eq := hlists.get?_eq }

end Schema

namespace Registry

variable {registry : Registry} {config : Config} {schema : Schema}

theorem increasing_ofRegistry (registry : Registry) :
    (Schema.ofRegistry registry).types.Pairwise fun type other =>
      type.id.index < other.id.index := by
  have hids := (pairwise_ids registry).filter registry.isComplex
  rwa [← ids_ofRegistry, List.pairwise_map] at hids

theorem mem_ids_ofRegistry_iff {id : TypeId} :
    (∃ type ∈ (Schema.ofRegistry registry).types, type.id = id) ↔
      registry.isComplex id = true := by
  rw [← List.mem_map, ids_ofRegistry, List.mem_filter, and_iff_right_iff_imp]
  intro hcomplex
  obtain ⟨complex, hget⟩ := isComplex_iff.mp hcomplex
  rw [mem_ids_iff, hget]
  exact Option.some_ne_none _

theorem nameOf?_of_mem_ofRegistry {type : CompiledType}
    (hmem : type ∈ (Schema.ofRegistry registry).types) :
    registry.nameOf? type.id = some type.name := by
  obtain ⟨_, _, hname, _⟩ := mem_ofRegistry_iff.mp hmem
  exact hname

/-- The complex types of a local name are the listed ones with this name. -/
theorem hasComplex_iff {localPart : String} {id : TypeId} :
    registry.HasComplex localPart id ↔
      ∃ type ∈ (Schema.ofRegistry registry).types, type.id = id ∧
        type.name.localPart = localPart := by
  rw [HasComplex, ← mem_ids_ofRegistry_iff]
  constructor
  · rintro ⟨⟨type, hmem, rfl⟩, space, hspace⟩
    rw [nameOf?_of_mem_ofRegistry hmem, Option.some.injEq] at hspace
    exact ⟨type, hmem, rfl, by rw [hspace]⟩
  · rintro ⟨type, hmem, rfl, rfl⟩
    exact ⟨⟨type, hmem, rfl⟩, type.name.space, nameOf?_of_mem_ofRegistry hmem⟩

/-- The schema of a registry lists its complex types. -/
theorem lists_ofRegistry (registry : Registry) : (Schema.ofRegistry registry).Lists registry where
  ids := ids_ofRegistry registry
  increasing := increasing_ofRegistry registry
  names _ := nameOf?_of_mem_ofRegistry
  getById?_iff id _ := Schema.getById?_eq_some_iff (increasing_ofRegistry registry) id
  isSome_getById? id := by
    rw [Bool.eq_iff_iff, ← mem_ids_ofRegistry_iff, Schema.getById?, List.find?_isSome]
    simp
  get?_iff localPart type := by
    rw [Schema.get?_eq_some_iff (increasing_ofRegistry registry)]
    simp only [hasComplex_iff]
    constructor
    · rintro ⟨hmem, hname, hleast⟩
      refine ⟨hmem, ⟨type, hmem, rfl, hname⟩, ?_⟩
      rintro _ ⟨other, hother, rfl, hsame⟩
      exact hleast other hother hsame
    · rintro ⟨hmem, ⟨found, hfound, hid, hname⟩, hleast⟩
      obtain rfl := Schema.eq_of_id_eq (increasing_ofRegistry registry) hfound hmem hid
      exact ⟨hmem, hname, fun other hother hsame => hleast _ ⟨other, hother, rfl, hsame⟩⟩
  get?_eq_none_iff localPart := by
    simp only [hasComplex_iff, Schema.get?_eq_find?, List.find?_eq_none]
    constructor
    · rintro hnone _ ⟨type, hmem, rfl, hname⟩
      exact hnone type hmem (beq_iff_eq.mpr hname)
    · intro hnone type hmem hname
      exact hnone type.id ⟨type, hmem, rfl, beq_iff_eq.mp hname⟩
  get?_eq := Schema.get?_eq_find? _

/-- **A schema lists exactly the complex types** of the registry that is compiled, each under its id
and its name. -/
theorem lists_of_compile (hok : (registry.compile config).2 = .ok schema) :
    schema.Lists registry := by
  obtain ⟨-, rfl⟩ := compile_eq_ok_iff.mp hok
  have hsame : (registry.compile config).1.forget = registry.forget := by
    rw [fst_compile, forget_lastRun]
  exact (lists_ofRegistry _).of_forget hsame

/-- Three types with one local name, the first of which is simple and the second declared under
another name. -/
def sharedLocalName : Registry :=
  empty.replay
    [.registerAs ⟨"urn:a", "Item"⟩ (.simple ⟨"Item", .unknown⟩),
      .registerAs ⟨"urn:b", "Item"⟩ (.extending "Leaf" "Base" none),
      .register (.complex { ComplexType.ofSequence [] with name := "Base" }),
      .registerAs ⟨"urn:c", "Item"⟩ (.complex { ComplexType.ofSequence [] with name := "Item" })]

/-- The local name stands for the second of the three. -/
theorem lists_of_compile_sharedLocalName :
    ∃ schema, (sharedLocalName.compile .standard).2 = .ok schema ∧
      schema.types.map (·.id) = [⟨1⟩, ⟨2⟩, ⟨3⟩] ∧
      (["Item", "Base", "Leaf"].map fun localPart => (schema.get? localPart).map (·.id)) =
        [some ⟨1⟩, some ⟨2⟩, none] ∧
      ([⟨0⟩, ⟨3⟩].map fun id => (schema.getById? id).map (·.name)) =
        [none, some ⟨"urn:c", "Item"⟩] ∧
      schema.Lists sharedLocalName := by
  have hok : (sharedLocalName.compile .standard).2 =
      .ok (Schema.ofRegistry (sharedLocalName.compile .standard).1) :=
    compile_eq_ok_iff.mpr ⟨by decide +kernel, rfl⟩
  exact ⟨_, hok, by decide +kernel, by decide +kernel, by decide +kernel, lists_of_compile hok⟩

end Registry

end XsdDerivation
