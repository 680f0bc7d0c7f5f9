import XsdDerivation.Proofs.Grounded
import XsdDerivation.Proofs.Runs
import XsdDerivation.Schema

/-!
# Passes over a registry

A pass visits all types of a registry in the order of their registration. If it finds no fault
the registry has everything recorded afterwards that its references name.
-/

namespace XsdDerivation.Registry

variable {registry other : Registry} {failFast : Bool} {id : TypeId}

/-- The run at the end of a pass. -/
def lastRun (registry : Registry) (failFast : Bool) : Run :=
  ((Run.start registry).visitAll failFast registry.ids).1

theorem faults_resolveAll : (registry.resolveAll failFast).faults =
    ((Run.start registry).visitAll failFast registry.ids).2 := rfl

/-- Compiling leaves the registry as the pass does. -/
theorem fst_compile (registry : Registry) (config : Config) :
    (registry.compile config).1 = (registry.lastRun config.failFast).registry := by
  unfold compile
  dsimp only
  split <;> rfl

/-- Compiling gives a schema if the pass finds no fault, and else its faults. -/
theorem snd_compile (registry : Registry) (config : Config) :
    (registry.compile config).2 =
      if (registry.resolveAll config.failFast).faults = [] then
        .ok (Schema.ofRegistry (registry.lastRun config.failFast).registry)
      else .error (registry.resolveAll config.failFast).faults := by
  unfold compile
  dsimp only
  simp only [List.isEmpty_iff]
  split <;> rfl

/-- Compiling gives a schema exactly if the pass finds no fault, and then it is that of the registry
that the pass leaves. -/
theorem compile_eq_ok_iff {config : Config} {schema : Schema} :
    (registry.compile config).2 = .ok schema ↔
      (registry.resolveAll config.failFast).faults = [] ∧
        Schema.ofRegistry (registry.compile config).1 = schema := by
  rw [snd_compile, fst_compile]
  split
  · rename_i hnil
    simp [hnil]
  · rename_i hne
    simp [hne]

/-- Where something is read off a successful outcome, it is read off a schema. -/
theorem exists_schema_of_read {α : Type} {outcome : Except (List Fault) Schema}
    {read : Schema → α} {value : α} (hread : outcome.toOption.map read = some value) :
    ∃ schema, outcome = .ok schema ∧ read schema = value := by
  cases outcome with
  | error => cases hread
  | ok schema => exact ⟨schema, rfl, Option.some.inj hread⟩

/-- A pass comes to rest. -/
theorem Indexed.resting_lastRun (hindexed : registry.Indexed) :
    (registry.lastRun failFast).Resting registry := by
  refine Run.visitAll_induction (fun run hrest id hid => ?_) Run.resting_start
  exact ((run.visit_spec none id).rest hindexed hrest (mem_ids_iff.mp hid)).2.1

/-- A pass over a consistent registry records what the references name. -/
theorem Consistent.sound_lastRun (hconsistent : registry.Consistent) :
    (registry.lastRun failFast).Sound registry :=
  Run.visitAll_induction (fun run hsound id _ => (run.visit_spec none id).sound hsound)
    (Run.sound_start hconsistent)

/-- A pass keeps what types say. -/
theorem forget_lastRun (registry : Registry) (failFast : Bool) :
    (registry.lastRun failFast).registry.forget = registry.forget :=
  (Run.visitAll_induction (motive := fun run => run.Over registry)
    (fun run hover id _ => (run.visit_spec none id).over hover) Run.over_start).forget_eq

/-- A pass over a consistent registry leaves it consistent. -/
theorem Consistent.lastRun (hconsistent : registry.Consistent) (failFast : Bool) :
    (registry.lastRun failFast).registry.Consistent :=
  hconsistent.sound_lastRun.consistent_registry

/-- A type gets its base recorded in a pass only if the pass resolves it. -/
theorem Consistent.mem_completed (hconsistent : registry.Consistent) (hindexed : registry.Indexed)
    (hbefore : registry.recordedBase? id = none)
    (hafter : (registry.lastRun failFast).registry.recordedBase? id ≠ none) :
    id ∈ (registry.lastRun failFast).completed := by
  have hsound : (registry.lastRun failFast).Sound registry := hconsistent.sound_lastRun
  by_cases hseen : (registry.lastRun failFast).Seen id
  · rcases hseen with hactive | hcompleted | hfailed
    · rw [hindexed.resting_lastRun.active_eq] at hactive
      exact absurd hactive List.not_mem_nil
    · exact hcompleted
    · exact absurd (hsound.unrecorded id hfailed) hafter
  · rw [recordedBase?, hsound.untouched id hseen] at hafter
    exact absurd hbefore hafter

/-- Registries that agree in what types say are equal if they agree in the types. -/
theorem eq_of_forget (hforget : registry.forget = other.forget)
    (hget : ∀ id, registry.get? id = other.get? id) : registry = other := by
  have hentries : registry.entries = other.entries := by
    refine Array.ext_getElem? fun index => ?_
    have hname : (registry.forget.entries[index]?).map (·.name) =
        (other.forget.entries[index]?).map (·.name) := by rw [hforget]
    have hdeclaration := hget ⟨index⟩
    simp only [get?, forget, mapDeclarations, Array.getElem?_map] at hname hdeclaration
    cases hfirst : registry.entries[index]? with
    | none =>
      cases hsecond : other.entries[index]? with
      | none => rfl
      | some entry => simp [hfirst, hsecond] at hdeclaration
    | some entry =>
      cases hsecond : other.entries[index]? with
      | none => simp [hfirst, hsecond] at hdeclaration
      | some entry' =>
        obtain ⟨name, declaration⟩ := entry
        obtain ⟨name', declaration'⟩ := entry'
        simp only [hfirst, hsecond, Option.map_some, Option.some.injEq] at hname hdeclaration
        rw [hname, hdeclaration]
  calc registry = { registry with entries := other.entries } := by rw [← hentries]
    _ = { registry.forget with entries := other.entries } := rfl
    _ = { other.forget with entries := other.entries } := by rw [hforget]
    _ = other := rfl

/-- A pass finds no fault exactly if no registered type has one ahead. -/
theorem Indexed.faults_eq_nil_iff (hindexed : registry.Indexed) :
    (registry.resolveAll failFast).faults = [] ↔
      ∀ id, registry.get? id ≠ none → registry.faultAhead? none id = none := by
  rw [faults_resolveAll, (Run.resting_start.visitAll_eq_nil_iff hindexed rfl
    fun id hid => mem_ids_iff.mp hid).1]
  simp only [mem_ids_iff]

/-- A pass without a fault records everything that the references name. -/
theorem registry_lastRun_of_faults_eq_nil (hindexed : registry.Indexed)
    (hconsistent : registry.Consistent) (hnil : (registry.resolveAll failFast).faults = []) :
    (registry.lastRun failFast).registry = registry.resolved := by
  have hsound : (registry.lastRun failFast).Sound registry := hconsistent.sound_lastRun
  obtain ⟨hfailed, hcompleted⟩ := (Run.resting_start.visitAll_eq_nil_iff hindexed rfl
    fun id hid => mem_ids_iff.mp hid).2 hnil
  have hforget : (registry.lastRun failFast).registry.forget = registry.resolved.forget := by
    rw [forget_lastRun, forget_resolved]
  refine eq_of_forget hforget fun id => ?_
  cases hget : registry.get? id with
  | none =>
    have hsame := get?_forget_eq_of_forget hforget id
    rw [get?_resolved, hget] at hsame
    rw [get?_resolved, hget, Option.map_none]
    exact Option.map_eq_none_iff.mp hsame
  | some declaration =>
    have hmem : id ∈ (registry.lastRun failFast).completed := by
      refine (hcompleted id).mpr (.inr ⟨id, mem_ids_iff.mpr ?_, .refl⟩)
      rw [hget]
      exact Option.some_ne_none _
    rcases hsound.completed id hmem with hresolved | ⟨base, hbase, _⟩
    · rw [hresolved, get?_resolved]
    · rw [lastRun, hfailed] at hbase
      exact absurd hbase List.not_mem_nil

/-! ### Schemas -/

/-- The types are listed in the order of their ids. -/
theorem getElem?_types {index : Nat} {entry : Entry} :
    registry.types[index]? = some (id, entry) ↔
      id = ⟨index⟩ ∧ registry.entries[index]? = some entry := by
  rw [types, List.getElem?_zip_eq_some, ids, List.getElem?_map]
  rw [show registry.entries.toList[index]? = registry.entries[index]? from Array.getElem?_toList]
  constructor
  · rintro ⟨hid, hentry⟩
    have hlt : index < registry.size := (Array.getElem?_eq_some_iff.mp hentry).1
    rw [List.getElem?_range hlt, Option.map_some, Option.some.injEq] at hid
    exact ⟨hid.symm, hentry⟩
  · rintro ⟨rfl, hentry⟩
    have hlt : index < registry.size := (Array.getElem?_eq_some_iff.mp hentry).1
    rw [List.getElem?_range hlt]
    exact ⟨rfl, hentry⟩

theorem getElem?_types_eq (registry : Registry) (index : Nat) :
    registry.types[index]? = registry.entries[index]?.map fun entry => (⟨index⟩, entry) := by
  refine Option.ext fun ⟨id, entry⟩ => ?_
  rw [getElem?_types, Option.map_eq_some_iff]
  grind

/-- What the schema of a registry says of the type with this id, if the type is complex. -/
def compiled? (registry : Registry) (id : TypeId) : Option CompiledType :=
  registry.entries[id.index]?.bind (Schema.compileEntry? registry id)

/-- The types of the schema of a registry stand in the order of their ids. -/
theorem types_ofRegistry :
    (Schema.ofRegistry registry).types = registry.ids.filterMap registry.compiled? := by
  have hmap : registry.types.map (fun type => Schema.compileEntry? registry type.1 type.2) =
      registry.ids.map registry.compiled? := by
    refine List.ext_getElem? fun index => ?_
    rw [List.getElem?_map, getElem?_types_eq, ids, List.map_map, List.getElem?_map]
    by_cases hlt : index < registry.size
    · have hentry : registry.entries[index]? = some registry.entries[index] :=
        Array.getElem?_eq_getElem hlt
      rw [List.getElem?_range hlt, Option.map_some, Function.comp_apply, compiled?, hentry]
      rfl
    · have hnone : registry.entries[index]? = none :=
        Array.getElem?_eq_none (Nat.le_of_not_lt hlt)
      rw [hnone, List.getElem?_eq_none (by simpa using hlt)]
      rfl
  calc (Schema.ofRegistry registry).types
      = (registry.types.map fun type =>
          Schema.compileEntry? registry type.1 type.2).filterMap fun type => type := by
        rw [Schema.ofRegistry, Schema.types_ofTypes, List.filterMap_map]
        rfl
    _ = registry.ids.filterMap registry.compiled? := by
        rw [hmap, List.filterMap_map]
        rfl

/-- The types of the schema of a registry are its complex types with all that they offer. -/
theorem mem_ofRegistry_iff {type : CompiledType} :
    type ∈ (Schema.ofRegistry registry).types ↔
      ∃ complex, registry.get? type.id = some (.complex complex) ∧
        registry.nameOf? type.id = some type.name ∧
        registry.members (.complex complex) = type.toMembers ∧
        registry.baseChain type.id = type.baseChain := by
  rw [Schema.ofRegistry, Schema.types_ofTypes, List.mem_filterMap]
  constructor
  · rintro ⟨⟨id, entry⟩, hmem, hcompile⟩
    obtain ⟨index, hindex⟩ := List.mem_iff_getElem?.mp hmem
    obtain ⟨rfl, hentry⟩ := getElem?_types.mp hindex
    cases hdeclaration : entry.declaration with
    | builtin => simp [Schema.compileEntry?, hdeclaration] at hcompile
    | simple => simp [Schema.compileEntry?, hdeclaration] at hcompile
    | complex complex =>
      simp only [Schema.compileEntry?, hdeclaration, Option.some.injEq] at hcompile
      subst hcompile
      refine ⟨complex, ?_, ?_, rfl, rfl⟩
      · rw [get?, hentry, Option.map_some, hdeclaration]
      · rw [nameOf?, hentry, Option.map_some]
  · rintro ⟨complex, hget, hname, hmembers, hchain⟩
    obtain ⟨entry, hentry, hdeclaration⟩ := Option.map_eq_some_iff.mp hget
    obtain ⟨_, hsame, hname⟩ := Option.map_eq_some_iff.mp hname
    rw [hentry, Option.some.injEq] at hsame
    subst hsame
    refine ⟨(type.id, entry), List.mem_of_getElem? (getElem?_types.mpr ⟨rfl, hentry⟩), ?_⟩
    simp only [Schema.compileEntry?, hdeclaration]
    rw [hname, hmembers, hchain]

end XsdDerivation.Registry
