import XsdDerivation.Proofs.SameTypes

/-!
# Orders of registration

The order of registration decides which type gets which id, in what order types are visited, and
where a loop is entered. It decides neither whether a schema compiles nor what its types offer, and
of the faults it decides the order and the names of circular derivations only.
-/

namespace XsdDerivation

/-! ### Faults in another order -/

/-- The fault without the name of the type at which a circular derivation was found. -/
def Fault.unnamed : Fault → Fault
  | circularDerivation _ => .circularDerivation ""
  | fault => fault

namespace Registry

variable {registry : Registry} {before before' ids ids' : List TypeId} {id other : TypeId}

/-- Walks that meet end with the same fault, but for the name in a loop. -/
theorem walkFault?_unnamed_of_meets (hmeets : Meets registry.nextBase? id other) :
    (registry.walkFault? none id).map Fault.unnamed =
      (registry.walkFault? none other).map Fault.unnamed := by
  have halike := sameEnd_walkEnd_iff.mpr hmeets
  unfold walkFault?
  cases hend : registry.walkEnd id with
  | stop last =>
    cases hend' : registry.walkEnd other with
    | stop last' =>
      rw [hend, hend'] at halike
      have hlast : last = last' := by simpa [sameEnd] using halike
      rw [hlast]
    | loop entry' =>
      rw [hend, hend'] at halike
      cases halike
  | loop entry =>
    cases hend' : registry.walkEnd other with
    | stop last' =>
      rw [hend, hend'] at halike
      cases halike
    | loop entry' => rfl

/-- Two types of which the walks meet give the same fault, but for the name in a loop. -/
theorem newFault?_unnamed_of_meets (hmeets : Meets registry.nextBase? id other) :
    (registry.newFault? before id).map Fault.unnamed =
      (registry.newFault? before other).map Fault.unnamed := by
  by_cases hbefore : ∃ earlier ∈ before, Meets registry.nextBase? earlier id
  · obtain ⟨earlier, hearlier, hmet⟩ := hbefore
    rw [newFault?_of_meets hearlier hmet, newFault?_of_meets hearlier (hmet.trans hmeets)]
  · have hapart (earlier : TypeId) (hearlier : earlier ∈ before) :
        ¬Meets registry.nextBase? earlier id := fun hmet => hbefore ⟨earlier, hearlier, hmet⟩
    have hapart' (earlier : TypeId) (hearlier : earlier ∈ before) :
        ¬Meets registry.nextBase? earlier other :=
      fun hmet => hapart earlier hearlier (hmet.trans hmeets.symm)
    rw [newFault?_of_apart hapart, newFault?_of_apart hapart', walkFault?_unnamed_of_meets hmeets]

/-- Which fault is found at a type depends on which types have been visited before, but not on the
order of their visits. -/
theorem newFault?_congr (hmem : ∀ id, id ∈ before ↔ id ∈ before') (id : TypeId) :
    registry.newFault? before id = registry.newFault? before' id := by
  have hany : (before.any fun earlier =>
        registry.sameEnd (registry.walkEnd earlier) (registry.walkEnd id)) =
      before'.any fun earlier =>
        registry.sameEnd (registry.walkEnd earlier) (registry.walkEnd id) := by
    rw [Bool.eq_iff_iff, any_sameEnd_iff, any_sameEnd_iff]
    simp only [hmem]
  rw [newFault?, newFault?, hany]

theorem newFaults_congr (hmem : ∀ id, id ∈ before ↔ id ∈ before') (ids : List TypeId) :
    registry.newFaults before ids = registry.newFaults before' ids := by
  induction ids generalizing before before' with
  | nil => rfl
  | cons id ids ih =>
    have hrest (other : TypeId) : other ∈ before ++ [id] ↔ other ∈ before' ++ [id] := by
      rw [List.mem_append, List.mem_append, hmem]
    rw [newFaults, newFaults, newFault?_congr hmem, ih hrest]

/-- A visit of a type of which the walk is not met changes nothing. -/
theorem newFault?_append_of_apart (hapart : ¬Meets registry.nextBase? other id) :
    registry.newFault? (before ++ [other]) id = registry.newFault? before id := by
  have hany : ((before ++ [other]).any fun earlier =>
        registry.sameEnd (registry.walkEnd earlier) (registry.walkEnd id)) =
      before.any fun earlier =>
        registry.sameEnd (registry.walkEnd earlier) (registry.walkEnd id) := by
    rw [Bool.eq_iff_iff, any_sameEnd_iff, any_sameEnd_iff]
    constructor
    · rintro ⟨earlier, hearlier, hmeets⟩
      rcases List.mem_append.mp hearlier with hearlier | hearlier
      · exact ⟨earlier, hearlier, hmeets⟩
      · rw [List.mem_singleton.mp hearlier] at hmeets
        exact absurd hmeets hapart
    · rintro ⟨earlier, hearlier, hmeets⟩
      exact ⟨earlier, List.mem_append_left _ hearlier, hmeets⟩
  rw [newFault?, newFault?, hany]

/-- Two types may be visited in either order. -/
theorem newFault?_swap (before : List TypeId) (id other : TypeId) :
    (((registry.newFault? before id).toList ++
        (registry.newFault? (before ++ [id]) other).toList).map Fault.unnamed).Perm
      (((registry.newFault? before other).toList ++
        (registry.newFault? (before ++ [other]) id).toList).map Fault.unnamed) := by
  by_cases hmeets : Meets registry.nextBase? id other
  · have hlater : registry.newFault? (before ++ [id]) other = none :=
      newFault?_of_meets (by simp) hmeets
    have hlater' : registry.newFault? (before ++ [other]) id = none :=
      newFault?_of_meets (by simp) hmeets.symm
    rw [hlater, hlater', Option.toList_none, List.append_nil, List.append_nil, ← Option.toList_map,
      ← Option.toList_map, newFault?_unnamed_of_meets hmeets]
  · rw [newFault?_append_of_apart hmeets, newFault?_append_of_apart fun h => hmeets h.symm]
    exact List.perm_append_comm.map _

/-- **The faults that are found do not depend on the order of visits**, but for the names of
circular derivations. -/
theorem newFaults_perm (hperm : ids.Perm ids') (before : List TypeId) :
    ((registry.newFaults before ids).map Fault.unnamed).Perm
      ((registry.newFaults before ids').map Fault.unnamed) := by
  induction hperm generalizing before with
  | nil => exact .nil
  | cons id _ ih =>
    rw [newFaults, newFaults, List.map_append, List.map_append]
    exact (ih (before ++ [id])).append_left _
  | swap first second ids =>
    have hrest : registry.newFaults (before ++ [second] ++ [first]) ids =
        registry.newFaults (before ++ [first] ++ [second]) ids := by
      refine newFaults_congr (fun id => ?_) ids
      simp only [List.mem_append, List.mem_singleton]
      exact or_right_comm
    have hswap := (registry.newFault?_swap before second first).append_right
      ((registry.newFaults (before ++ [first] ++ [second]) ids).map Fault.unnamed)
    rw [← List.map_append, ← List.map_append] at hswap
    rw [newFaults, newFaults, newFaults, newFaults, hrest, ← List.append_assoc, ← List.append_assoc]
    exact hswap
  | trans _ _ ih ih' => exact (ih before).trans (ih' before)

end Registry

/-! ### Types with names in the place of ids -/

/-- What a compiled type says, with names in the place of ids. -/
structure NamedType where
  /-- The name of the type. -/
  name : QualifiedName
  /-- The elements, each with the name of the type that is recorded for it, if there is one. -/
  elements : List (Element × Option (Option QualifiedName))
  /-- The attributes, with their collisions marked. -/
  attributes : List Attribute
  /-- Whether the type carries text. -/
  containsText : Bool
  /-- The names of the bases, from the immediate base to the root. -/
  baseChain : List (Option QualifiedName)

namespace CompiledType

/-- The compiled type with the names that ids stand for in a registry. -/
def named (registry : Registry) (type : CompiledType) : NamedType where
  name := type.name
  elements := type.elements.map fun element =>
    (element.forget, element.resolvedType.map registry.nameOf?)
  attributes := type.attributes
  containsText := type.containsText
  baseChain := type.baseChain.map registry.nameOf?

/-- The compiled type with its ids renamed. -/
def mapIds (rename : TypeId → TypeId) (type : CompiledType) : CompiledType :=
  { type with
    elements := type.elements.map (Element.mapIds rename)
    id := rename type.id
    baseChain := type.baseChain.map rename }

end CompiledType

/-- The type with this qualified name. -/
def Schema.named? (schema : Schema) (name : QualifiedName) : Option CompiledType :=
  schema.types.find? (·.name = name)

namespace Registry

variable {registry other : Registry} {rename : TypeId → TypeId} {name : QualifiedName}
  {type : CompiledType}

/-- Whether the index is exact does not depend on what is recorded. -/
theorem IndexExact.resolved (hexact : registry.IndexExact) : registry.resolved.IndexExact := by
  have hnames : registry.resolved.nameOf? = registry.nameOf? := nameOf?_eq_of_forget forget_resolved
  intro name id
  rw [hnames]
  exact hexact name id

/-- In a schema names stand for one type at most. -/
theorem IndexExact.named?_eq_some_iff (hexact : registry.IndexExact) :
    (Schema.ofRegistry registry).named? name = some type ↔
      type ∈ (Schema.ofRegistry registry).types ∧ type.name = name := by
  constructor
  · intro hfound
    exact ⟨List.mem_of_find?_eq_some hfound, by simpa using List.find?_some hfound⟩
  · rintro ⟨hmem, rfl⟩
    obtain ⟨found, hfound⟩ :
        ∃ found, (Schema.ofRegistry registry).named? type.name = some found := by
      refine Option.isSome_iff_exists.mp ?_
      rw [Schema.named?, List.find?_isSome]
      exact ⟨type, hmem, by simp⟩
    have hfoundName : found.name = type.name := by simpa using List.find?_some hfound
    obtain ⟨complex, hget, hname, hmembers, hchain⟩ := mem_ofRegistry_iff.mp hmem
    obtain ⟨complex', hget', hname', hmembers', hchain'⟩ :=
      mem_ofRegistry_iff.mp (List.mem_of_find?_eq_some hfound)
    have hid : found.id = type.id := hexact.eq_of_nameOf? hname' (hfoundName ▸ hname)
    rw [hid, hget, Option.some.injEq] at hget'
    rw [hfound]
    cases found
    cases type
    simp_all

namespace Renames

variable (hrenames : Renames rename registry other)

include hrenames

/-- The ids in use are the renamed ones. -/
theorem ids_perm : (registry.ids.map rename).Perm other.ids := by
  have hnodup : (registry.ids.map rename).Nodup := by
    refine List.Nodup.map hrenames.injective (List.nodup_range.map fun first second heq => ?_)
    exact congrArg TypeId.index heq
  have hsubset : registry.ids.map rename ⊆ other.ids := by
    intro id hid
    obtain ⟨before, hbefore, rfl⟩ := List.mem_map.mp hid
    rw [mem_ids_iff, hrenames.get?_eq]
    exact mem_ids_iff.mp hbefore
  refine (hnodup.subperm hsubset).perm_of_length_le ?_
  simp [ids, hrenames.size_eq]

/-- A renamed type says the same with names in the place of ids. -/
theorem named_mapIds (type : CompiledType) :
    (type.mapIds rename).named other = type.named registry := by
  have hnames : other.nameOf? ∘ rename = registry.nameOf? := funext hrenames.nameOf?_eq
  have helement (element : Element) : (element.mapIds rename).resolvedType.map other.nameOf? =
      element.resolvedType.map registry.nameOf? := by
    rw [Element.mapIds, Option.map_map, hnames]
  simp only [CompiledType.named, CompiledType.mapIds, List.map_map, hnames, Function.comp_def,
    helement]
  rfl

/-- The renamed types of one schema are types of the other one. -/
theorem mapIds_mem (hmem : type ∈ (Schema.ofRegistry registry.resolved).types) :
    type.mapIds rename ∈ (Schema.ofRegistry other.resolved).types := by
  obtain ⟨complex, hget, hname, hmembers, hchain⟩ := mem_ofRegistry_iff.mp hmem
  have hother : other.resolved.nameOf? = other.nameOf? := nameOf?_eq_of_forget forget_resolved
  have hself : registry.resolved.nameOf? = registry.nameOf? := nameOf?_eq_of_forget forget_resolved
  refine mem_ofRegistry_iff.mpr ⟨complex.annotate (Element.mapIds rename)
    fun derivation => derivation.resolvedBase.map rename, ?_, ?_, ?_, ?_⟩
  · rw [CompiledType.mapIds, hrenames.get?_resolved, hget]
    rfl
  · rw [CompiledType.mapIds, hother, hrenames.nameOf?_eq, ← hself, hname]
  · have hrenamed := hrenames.members_resolved (.complex complex)
    rw [hmembers] at hrenamed
    exact hrenamed
  · rw [CompiledType.mapIds, hrenames.baseChain_resolved, hchain]

/-- The names in one schema are those in the other one. -/
theorem exists_named (hmem : type ∈ (Schema.ofRegistry other.resolved).types) :
    ∃ before ∈ (Schema.ofRegistry registry.resolved).types, before.name = type.name := by
  obtain ⟨complex, hget, hname, -, -⟩ := mem_ofRegistry_iff.mp hmem
  have hother : other.resolved.nameOf? = other.nameOf? := nameOf?_eq_of_forget forget_resolved
  have hself : registry.resolved.nameOf? = registry.nameOf? := nameOf?_eq_of_forget forget_resolved
  have hid : type.id ∈ other.ids := by
    rw [← ids_eq_of_forget forget_resolved, mem_ids_iff, hget]
    exact Option.some_ne_none _
  obtain ⟨id, -, heq⟩ := List.mem_map.mp (hrenames.ids_perm.mem_iff.mpr hid)
  rw [← heq, hrenames.get?_resolved] at hget
  rw [← heq, hother, hrenames.nameOf?_eq, ← hself] at hname
  obtain ⟨declaration, hdeclaration, hcomplex⟩ := Option.map_eq_some_iff.mp hget
  cases declaration with
  | builtin => cases hcomplex
  | simple => cases hcomplex
  | complex before =>
    refine ⟨{ registry.resolved.members (.complex before) with
      id
      name := type.name
      baseChain := registry.resolved.baseChain id }, ?_, rfl⟩
    exact mem_ofRegistry_iff.mpr ⟨before, hdeclaration, hname, rfl, rfl⟩

/-- A name stands for the renamed type. -/
theorem named?_eq (hexact : registry.IndexExact) (hexact' : other.IndexExact)
    (name : QualifiedName) :
    (Schema.ofRegistry other.resolved).named? name =
      ((Schema.ofRegistry registry.resolved).named? name).map (CompiledType.mapIds rename) := by
  cases hfound : (Schema.ofRegistry registry.resolved).named? name with
  | some type =>
    obtain ⟨hmem, hname⟩ := hexact.resolved.named?_eq_some_iff.mp hfound
    exact hexact'.resolved.named?_eq_some_iff.mpr ⟨hrenames.mapIds_mem hmem, hname⟩
  | none =>
    rw [Option.map_none]
    by_contra hother
    obtain ⟨type, htype⟩ := Option.ne_none_iff_exists'.mp hother
    obtain ⟨hmem, hname⟩ := hexact'.resolved.named?_eq_some_iff.mp htype
    obtain ⟨before, hbefore, hsame⟩ := hrenames.exists_named hmem
    rw [hexact.resolved.named?_eq_some_iff.mpr ⟨hbefore, hsame.trans hname⟩] at hfound
    cases hfound

end Renames

/-! ### Compiling in another order -/

/-- Compiling the registries gives two schemas in which every name stands for the same type, or
faults in both. Where all faults are reported they are the same, up to their order and to the names
of circular derivations. -/
def CompileAlike (config : Config) (registry other : Registry) : Prop :=
  (∃ schema schema', (registry.compile config).2 = .ok schema ∧
      (other.compile config).2 = .ok schema' ∧
      ∀ name, (schema.named? name).map (CompiledType.named registry) =
        (schema'.named? name).map (CompiledType.named other)) ∨
    ∃ faults faults', (registry.compile config).2 = .error faults ∧
      (other.compile config).2 = .error faults' ∧
      (config.failFast = false →
        (faults.map Fault.unnamed).Perm (faults'.map Fault.unnamed))

/-- A registry that has never been compiled is compiled without a fault exactly if none of its types
gives a new one. -/
theorem NeverCompiled.faults_eq_nil_iff (hnever : registry.NeverCompiled) (failFast : Bool) :
    (registry.resolveAll failFast).faults = [] ↔ registry.newFaults [] registry.ids = [] := by
  rw [hnever.repeatable.faults_eq]
  split
  · rw [List.take_eq_nil_iff]
    simp
  · rfl

/-- Registries that are the same but for the ids of types compile alike. -/
theorem Renames.compileAlike (hrenames : Renames rename registry other)
    (hnever : registry.NeverCompiled) (hnever' : other.NeverCompiled)
    (hexact : registry.IndexExact) (hexact' : other.IndexExact) (config : Config) :
    CompileAlike config registry other := by
  have hperm : ((registry.newFaults [] registry.ids).map Fault.unnamed).Perm
      ((other.newFaults [] other.ids).map Fault.unnamed) := by
    rw [← hrenames.newFaults_eq [] registry.ids]
    exact newFaults_perm hrenames.ids_perm []
  have hnil : (other.resolveAll config.failFast).faults = [] ↔
      (registry.resolveAll config.failFast).faults = [] := by
    rw [hnever.faults_eq_nil_iff, hnever'.faults_eq_nil_iff]
    have hlength := hperm.length_eq
    rw [List.length_map, List.length_map] at hlength
    rw [← List.length_eq_zero_iff, ← hlength, List.length_eq_zero_iff]
  by_cases hnone : (registry.resolveAll config.failFast).faults = []
  · left
    have hresolved :=
      registry_lastRun_of_faults_eq_nil hnever.indexed hnever.grounded.consistent hnone
    have hresolved' :=
      registry_lastRun_of_faults_eq_nil hnever'.indexed hnever'.grounded.consistent (hnil.mpr hnone)
    refine ⟨Schema.ofRegistry registry.resolved, Schema.ofRegistry other.resolved, ?_, ?_, ?_⟩
    · rw [compile_eq_ok_iff, fst_compile, hresolved]
      exact ⟨hnone, rfl⟩
    · rw [compile_eq_ok_iff, fst_compile, hresolved']
      exact ⟨hnil.mpr hnone, rfl⟩
    · intro name
      rw [hrenames.named?_eq hexact hexact', Option.map_map]
      exact congrArg (Option.map · _) (funext fun type => (hrenames.named_mapIds type).symm)
  · right
    refine ⟨(registry.resolveAll config.failFast).faults,
      (other.resolveAll config.failFast).faults, ?_, ?_, fun hall => ?_⟩
    · rw [snd_compile, if_neg hnone]
    · rw [snd_compile, if_neg fun hnone' => hnone (hnil.mp hnone')]
    · rw [hall, hnever.repeatable.faults_eq, hnever'.repeatable.faults_eq]
      exact hperm

end Registry

/-- Registers the type under its name. -/
def Entry.registration (entry : Entry) : Operation :=
  .registerAs entry.name entry.declaration

namespace Registry

variable {start : Registry} {types types' : List Entry} {rest : List Operation}

theorem replay_registrations (types : List Entry) :
    start.replay (types.map Entry.registration) = start.addEach types := by
  induction types generalizing start with
  | nil => rfl
  | cons entry types ih =>
    rw [List.map_cons, replay_cons, ih, addEach_cons, Entry.registration, Operation.apply,
      registerAs_eq_addNew]

/-- **The order of registration does not matter.** Types with different names in which nothing is
recorded are registered in two orders, and both registries are filled further in the same way. Then
both compile alike. -/
theorem compileAlike_of_perm (hnever : start.NeverCompiled) (hexact : start.IndexExact)
    (hnames : (types.map (·.name)).Nodup)
    (hplain : ∀ entry ∈ types, entry.declaration.forget = entry.declaration)
    (hperm : types.Perm types') (hrest : ∀ operation ∈ rest, operation.declares = true)
    (config : Config) :
    CompileAlike config (start.replay (types.map Entry.registration ++ rest))
      (start.replay (types'.map Entry.registration ++ rest)) := by
  have hdeclares {types : List Entry}
      (hplain : ∀ entry ∈ types, entry.declaration.forget = entry.declaration) :
      ∀ operation ∈ types.map Entry.registration ++ rest, operation.declares = true := by
    intro operation hmem
    rcases List.mem_append.mp hmem with hmem | hmem
    · obtain ⟨entry, hentry, rfl⟩ := List.mem_map.mp hmem
      exact decide_eq_true (hplain entry hentry)
    · exact hrest operation hmem
  have hfirst := hdeclares hplain
  have hsecond := hdeclares fun entry hentry => hplain entry (hperm.mem_iff.mpr hentry)
  have hsame : (start.replay (types.map Entry.registration ++ rest)).SameTypes
      (start.replay (types'.map Entry.registration ++ rest)) := by
    rw [replay_append, replay_append, replay_registrations, replay_registrations]
    exact (sameTypes_addEach_of_perm hperm hnames hexact).replay (hexact.addEach types)
      (hexact.addEach types') hrest
  have hexact₁ := hexact.replay hfirst
  have hexact₂ := hexact.replay hsecond
  exact (hsame.renames hexact₁ hexact₂).compileAlike (hnever.replay_declares hfirst)
    (hnever.replay_declares hsecond) hexact₁ hexact₂ config

/-- Three types of which each extends another, in a circle, and a type with an unknown base. -/
def ringAndLost : List Entry :=
  [⟨⟨"", "A"⟩, .extending "A" "own:B" none⟩, ⟨⟨"", "Lost"⟩, .extending "Lost" "Nowhere" none⟩,
    ⟨⟨"", "B"⟩, .extending "B" "C" none⟩, ⟨⟨"", "C"⟩, .extending "C" "A" none⟩]

/-- The registry of types registered in this order, with a prefix that they use. -/
def withOwnPrefix (types : List Entry) : Registry :=
  empty.replay (types.map Entry.registration ++ [.bind "own" ""])

/-- A type that extends a later one and has an element of its own type, and the later one. -/
def leafAndBase : List Entry :=
  [⟨⟨"", "Leaf"⟩, .extending "Leaf" "own:Base"
      (some [{ Element.named "leaf" with typeReference := some "Leaf" }])⟩,
    ⟨⟨"", "Base"⟩, .complex { ComplexType.ofSequence [.named "part"] with name := "Base" }⟩]

/-- In the opposite order the circle is entered at another type, and both registries have faults.
The two other types are compiled in either order, and their names stand for the same types. -/
theorem compileAlike_of_perm_ringAndLost :
    (empty.NeverCompiled ∧ empty.IndexExact ∧ (ringAndLost.map (·.name)).Nodup ∧
        (∀ entry ∈ ringAndLost, entry.declaration.forget = entry.declaration) ∧
        ringAndLost.Perm ringAndLost.reverse) ∧
      ((withOwnPrefix ringAndLost).resolveAll false).faults =
        [.circularDerivation "A", .unknownBase "Nowhere" .unknown] ∧
      ((withOwnPrefix ringAndLost.reverse).resolveAll false).faults =
        [.circularDerivation "C", .unknownBase "Nowhere" .unknown] ∧
      CompileAlike ⟨[], false⟩ (withOwnPrefix ringAndLost) (withOwnPrefix ringAndLost.reverse) ∧
      ((leafAndBase.map (·.name)).Nodup ∧
        (∀ entry ∈ leafAndBase, entry.declaration.forget = entry.declaration) ∧
        leafAndBase.Perm leafAndBase.reverse) ∧
      ∃ schema schema',
        ((withOwnPrefix leafAndBase).compile ⟨[], false⟩).2 = .ok schema ∧
          ((withOwnPrefix leafAndBase.reverse).compile ⟨[], false⟩).2 = .ok schema' ∧
          schema.types.map (fun type => (type.name.localPart, type.id, type.baseChain)) =
            [("Leaf", ⟨0⟩, [⟨1⟩]), ("Base", ⟨1⟩, [])] ∧
          schema'.types.map (fun type => (type.name.localPart, type.id, type.baseChain)) =
            [("Base", ⟨0⟩, []), ("Leaf", ⟨1⟩, [⟨0⟩])] ∧
          ∀ name, (schema.named? name).map (CompiledType.named (withOwnPrefix leafAndBase)) =
            (schema'.named? name).map
              (CompiledType.named (withOwnPrefix leafAndBase.reverse)) := by
  have hnames : (ringAndLost.map (·.name)).Nodup := by decide
  have hplain : ∀ entry ∈ ringAndLost, entry.declaration.forget = entry.declaration := by decide
  have hperm : ringAndLost.Perm ringAndLost.reverse := (List.reverse_perm _).symm
  have hnames' : (leafAndBase.map (·.name)).Nodup := by decide
  have hplain' : ∀ entry ∈ leafAndBase, entry.declaration.forget = entry.declaration := by decide
  have hperm' : leafAndBase.Perm leafAndBase.reverse := (List.reverse_perm _).symm
  refine ⟨⟨neverCompiled_empty, indexExact_empty, hnames, hplain, hperm⟩, by decide +kernel,
    by decide +kernel, compileAlike_of_perm neverCompiled_empty indexExact_empty hnames hplain hperm
      (by decide) ⟨[], false⟩, ⟨hnames', hplain', hperm'⟩, ?_⟩
  have halike : CompileAlike ⟨[], false⟩ (withOwnPrefix leafAndBase)
      (withOwnPrefix leafAndBase.reverse) :=
    compileAlike_of_perm neverCompiled_empty indexExact_empty hnames' hplain' hperm' (by decide)
      ⟨[], false⟩
  have hok : ((withOwnPrefix leafAndBase).compile ⟨[], false⟩).2 =
      .ok (Schema.ofRegistry ((withOwnPrefix leafAndBase).compile ⟨[], false⟩).1) :=
    compile_eq_ok_iff.mpr ⟨by decide +kernel, rfl⟩
  have hok' : ((withOwnPrefix leafAndBase.reverse).compile ⟨[], false⟩).2 =
      .ok (Schema.ofRegistry ((withOwnPrefix leafAndBase.reverse).compile ⟨[], false⟩).1) :=
    compile_eq_ok_iff.mpr ⟨by decide +kernel, rfl⟩
  rcases halike with ⟨schema, schema', hschema, hschema', hsame⟩ | ⟨faults, _, hfaults, _, _⟩
  · obtain rfl := Except.ok.inj (hok.symm.trans hschema)
    obtain rfl := Except.ok.inj (hok'.symm.trans hschema')
    exact ⟨_, _, hok, hok', by decide +kernel, by decide +kernel, hsame⟩
  · cases hok.symm.trans hfaults

end Registry

end XsdDerivation
