import XsdDerivation.Proofs.Passes

/-!
# Compiling well-formed registries

A registry that has never been compiled is compiled without a fault exactly if every reference
names a type and no type is based on itself. Then everything is resolved, and the base chain of a
type runs along the declared bases up to a type that has none.
-/

namespace XsdDerivation.Registry

variable {registry after : Registry} {id : TypeId} {chain : List TypeId}

/-- Every reference names a type and no type is based on itself. -/
structure WellFormed (registry : Registry) : Prop where
  /-- The type references of elements name types. -/
  elements : ∀ id declaration, registry.get? id = some declaration →
    ∀ element ∈ declaration.declaredElements, ∀ reference,
      element.typeReference = some reference → registry.findReferenced? reference ≠ none
  /-- Base references are not blank and name types. -/
  bases : ∀ id declaration derivation, registry.get? id = some declaration →
    declaration.derivation? = some derivation →
      Reference.isBlank derivation.base = false ∧ registry.findReferenced? derivation.base ≠ none
  /-- No chain of declared bases leads back to its first type. -/
  acyclic : ∀ id, ¬Loops registry.declaredBase? id

/-- The registry `after` has everything recorded that the references of `registry` name. -/
structure Completes (registry after : Registry) : Prop where
  /-- Nothing but what is recorded has changed. -/
  forget_eq : after.forget = registry.forget
  /-- Every derivation has the base recorded that its base reference names. -/
  bases : ∀ id declaration derivation, after.get? id = some declaration →
    declaration.derivation? = some derivation → ∃ base, derivation.resolvedBase = some base ∧
      registry.findReferenced? derivation.base = some base
  /-- Every element with a type reference has the type recorded that this names. -/
  elements : ∀ id declaration, after.get? id = some declaration →
    ∀ element ∈ declaration.declaredElements, ∀ reference,
      element.typeReference = some reference → ∃ type, element.resolvedType = some type ∧
        registry.findReferenced? reference = some type

/-- The declared bases of a type, from the immediate base to a type that is not derived. -/
inductive HasBases (registry : Registry) : TypeId → List TypeId → Prop where
  /-- A type that is not derived has no bases. -/
  | root {id : TypeId} {declaration : Declaration} (hget : registry.get? id = some declaration)
      (hplain : declaration.derivation? = none) : HasBases registry id []
  /-- The bases of a derived type are its own base and the bases of that one. -/
  | derived {id base : TypeId} {chain : List TypeId} {declaration : Declaration}
      {derivation : Derivation} (hget : registry.get? id = some declaration)
      (hderived : declaration.derivation? = some derivation)
      (hbase : registry.findReferenced? derivation.base = some base)
      (hrest : HasBases registry base chain) : HasBases registry id (base :: chain)

/-! ### Well-formed registries and faults -/

/-- A type is without fault exactly if its references name types. -/
theorem localFault?_eq_none_iff_of_get? {declaration : Declaration}
    (hget : registry.get? id = some declaration) :
    registry.localFault? none id = none ↔
      (∀ element ∈ declaration.declaredElements, ∀ reference,
        element.typeReference = some reference → registry.findReferenced? reference ≠ none) ∧
      ∀ derivation, declaration.derivation? = some derivation →
        Reference.isBlank derivation.base = false ∧
          registry.findReferenced? derivation.base ≠ none := by
  have hbase (derivation : Derivation) : (derivation.base? registry.findReferenced?).isSome ↔
      Reference.isBlank derivation.base = false ∧
        registry.findReferenced? derivation.base ≠ none := by
    unfold Derivation.base?
    cases Reference.isBlank derivation.base <;> simp [Option.isSome_iff_ne_none]
  have helement (element : Element) : element.fault? registry.findReferenced? = none ↔
      ∀ reference, element.typeReference = some reference →
        registry.findReferenced? reference ≠ none := by
    unfold Element.fault?
    cases element.typeReference <;> simp [Option.isSome_iff_ne_none]
  rw [localFault?, hget, Option.bind_some, Declaration.fault?_eq_none_iff]
  simp only [hbase, helement]

/-- A walk that starts at a type with a fault ends there. -/
theorem localFault?_eq_none_of_walkFault? (hwalk : registry.walkFault? none id = none) :
    registry.localFault? none id = none := by
  cases hfault : registry.localFault? none id with
  | none => rfl
  | some fault =>
    have hstop : registry.nextBase? id = none := by
      rw [nextBase?, hfault]
      rfl
    have hend : registry.walkEnd id = .stop id := ending_eq_stop_iff.mpr ⟨.refl, hstop⟩
    rw [walkFault?, hend, endFault?, hfault] at hwalk
    exact hwalk

/-- Without faults of their own types lead to all their declared bases. -/
theorem nextBase?_eq_of_localFault? (hnone : registry.localFault? none id = none) :
    registry.nextBase? id = registry.declaredBase? id := by
  rw [nextBase?, hnone]
  rfl

/-- All walks of a registry end without a fault exactly if it is well-formed. -/
theorem wellFormed_iff :
    registry.WellFormed ↔
      ∀ id, registry.get? id ≠ none → registry.walkFault? none id = none := by
  constructor
  · intro hformed id _
    have hlocal (id : TypeId) : registry.localFault? none id = none := by
      cases hget : registry.get? id with
      | none => rw [localFault?, hget, Option.bind_none]
      | some declaration =>
        exact (localFault?_eq_none_iff_of_get? hget).mpr
          ⟨hformed.elements id declaration hget,
            fun derivation => hformed.bases id declaration derivation hget⟩
    unfold walkFault?
    cases hend : registry.walkEnd id with
    | stop last => exact hlocal last
    | loop entry =>
      have hloop := (loops_of_ending_loop hend).2
      have hnext : registry.nextBase? = registry.declaredBase? :=
        funext fun id => nextBase?_eq_of_localFault? (hlocal id)
      exact absurd (hnext ▸ hloop) (hformed.acyclic entry)
  · intro hwalks
    have hlocal (id : TypeId) (hget : registry.get? id ≠ none) :
        registry.localFault? none id = none :=
      localFault?_eq_none_of_walkFault? (hwalks id hget)
    refine ⟨fun id declaration hget => ?_, fun id declaration derivation hget => ?_,
      fun id hloop => ?_⟩
    · exact ((localFault?_eq_none_iff_of_get? hget).mp (hlocal id (by simp [hget]))).1
    · exact ((localFault?_eq_none_iff_of_get? hget).mp (hlocal id (by simp [hget]))).2 derivation
    · have hnext : registry.nextBase? = registry.declaredBase? := by
        funext other
        cases hget : registry.get? other with
        | none => simp [nextBase?, declaredBase?, hget]
        | some declaration => exact nextBase?_eq_of_localFault? (hlocal other (by simp [hget]))
      rw [← hnext] at hloop
      obtain ⟨entry, hend, _⟩ : ∃ entry, registry.walkEnd id = .loop entry ∧
          Reaches registry.nextBase? id entry := exists_ending_eq_loop .refl hloop
      have hget : registry.get? id ≠ none := by
        intro hnone
        refine hloop.ne_none ?_
        simp [nextBase?, declaredBase?, hnone]
      have hwalk := hwalks id hget
      rw [walkFault?, hend] at hwalk
      cases hwalk

/-! ### Complete resolution -/

/-- The declared base of a type is the one that its base reference names. -/
theorem declaredBase?_eq_some_iff {base : TypeId} :
    registry.declaredBase? id = some base ↔
      ∃ declaration derivation, registry.get? id = some declaration ∧
        declaration.derivation? = some derivation ∧ Reference.isBlank derivation.base = false ∧
          registry.findReferenced? derivation.base = some base := by
  simp only [declaredBase?, Declaration.base?, Derivation.base?, Option.bind_eq_some_iff]
  constructor
  · rintro ⟨declaration, hget, derivation, hderived, hbase⟩
    cases hblank : Reference.isBlank derivation.base with
    | true => simp [hblank] at hbase
    | false =>
      rw [hblank, if_neg Bool.false_ne_true] at hbase
      exact ⟨declaration, derivation, hget, hderived, hblank, hbase⟩
  · rintro ⟨declaration, derivation, hget, hderived, hblank, hbase⟩
    exact ⟨declaration, hget, derivation, hderived, by simpa [hblank] using hbase⟩

/-- Resolving a well-formed registry completes it. -/
theorem WellFormed.completes_resolved (hformed : registry.WellFormed) :
    registry.Completes registry.resolved := by
  refine ⟨forget_resolved, fun id declaration derivation hget hderived => ?_,
    fun id declaration hget element helement reference hreference => ?_⟩
  · rw [get?_resolved] at hget
    obtain ⟨declared, hdeclared, rfl⟩ := Option.map_eq_some_iff.mp hget
    rw [Declaration.resolved, Declaration.derivation?_annotate] at hderived
    obtain ⟨original, horiginal, rfl⟩ := Option.map_eq_some_iff.mp hderived
    obtain ⟨hblank, hsome⟩ := hformed.bases id declared original hdeclared horiginal
    obtain ⟨base, hbase⟩ := Option.ne_none_iff_exists'.mp hsome
    exact ⟨base, by simp [Derivation.annotate, Derivation.base?, hblank, hbase], hbase⟩
  · rw [get?_resolved] at hget
    obtain ⟨declared, hdeclared, rfl⟩ := Option.map_eq_some_iff.mp hget
    rw [Declaration.resolved, Declaration.declaredElements_annotate] at helement
    obtain ⟨original, horiginal, rfl⟩ := List.mem_map.mp helement
    have hsome := hformed.elements id declared hdeclared original horiginal reference hreference
    obtain ⟨type, htype⟩ := Option.ne_none_iff_exists'.mp hsome
    have htypeReference : original.typeReference = some reference := hreference
    exact ⟨type, by simp [Element.resolved, htypeReference, htype], htype⟩

/-- A walk along the declared bases of a well-formed registry lists all of them. -/
theorem WellFormed.hasBases_path (hformed : registry.WellFormed) (hindexed : registry.Indexed)
    {size : Nat} {hstep : ∀ id next, registry.declaredBase? id = some next → id.index < size}
    {seen : List TypeId} {last : TypeId} (hget : registry.get? id ≠ none)
    (hend : ending size registry.declaredBase? hstep seen id = .stop last) :
    ∃ chain, path size registry.declaredBase? hstep seen id = id :: chain ∧
      registry.HasBases id chain := by
  induction seen, id using walk_induction hstep with
  | met seen current hseen => simp [ending_of_mem hseen] at hend
  | stop seen current hnew hnone =>
    obtain ⟨declaration, hdeclaration⟩ := Option.ne_none_iff_exists'.mp hget
    refine ⟨[], path_of_none hnew hnone, .root hdeclaration ?_⟩
    cases hderived : declaration.derivation? with
    | none => rfl
    | some derivation =>
      obtain ⟨hblank, hsome⟩ := hformed.bases current declaration derivation hdeclaration hderived
      obtain ⟨base, hbase⟩ := Option.ne_none_iff_exists'.mp hsome
      have hdeclared := declaredBase?_eq_some_iff.mpr
        ⟨declaration, derivation, hdeclaration, hderived, hblank, hbase⟩
      rw [hnone] at hdeclared
      cases hdeclared
  | next seen current next hnew hnext ih =>
    rw [ending_of_some hnew hnext] at hend
    obtain ⟨chain, hpath, hbases⟩ := ih (hindexed.declaredBase?_registered hnext) hend
    obtain ⟨declaration, derivation, hdeclaration, hderived, _, hbase⟩ :=
      declaredBase?_eq_some_iff.mp hnext
    refine ⟨next :: chain, ?_, .derived hdeclaration hderived hbase hbases⟩
    rw [path_of_some hnew hnext, hpath]

/-- The base chains of a resolved well-formed registry list all bases. -/
theorem WellFormed.hasBases_baseChain (hformed : registry.WellFormed)
    (hindexed : registry.Indexed) (hget : registry.get? id ≠ none) :
    registry.HasBases id (registry.resolved.baseChain id) := by
  have hstep (id next : TypeId) (hnext : registry.declaredBase? id = some next) :
      id.index < registry.resolved.size :=
    lt_size_of_recordedBase? id next (recordedBase?_resolved ▸ hnext)
  have hpath : registry.resolved.recordedPath id =
      path registry.resolved.size registry.declaredBase? hstep [] id := by
    unfold recordedPath
    simp only [recordedBase?_resolved]
  cases hend : ending registry.resolved.size registry.declaredBase? hstep [] id with
  | stop last =>
    obtain ⟨chain, hchain, hbases⟩ := hformed.hasBases_path hindexed hget hend
    rw [baseChain, hpath, hchain]
    exact hbases
  | loop entry =>
    have hloop := (loops_of_ending_loop hend).2
    exact absurd hloop (hformed.acyclic entry)

/-- A compiled type is registered and has the base chain of its id. -/
theorem of_mem_ofRegistry {type : CompiledType} (hmem : type ∈ (Schema.ofRegistry registry).types) :
    registry.get? type.id ≠ none ∧ type.baseChain = registry.baseChain type.id := by
  obtain ⟨complex, hget, -, -, hchain⟩ := mem_ofRegistry_iff.mp hmem
  exact ⟨by rw [hget]; exact Option.some_ne_none _, hchain.symm⟩

/-- **Compiling succeeds exactly for well-formed registries.** Then every derivation and every
element has the type recorded that its reference names, and every base chain is complete. -/
theorem compile_ok_iff_wellFormed (hnever : registry.NeverCompiled) (config : Config) :
    ((∃ schema, (registry.compile config).2 = .ok schema) ↔ registry.WellFormed) ∧
      ∀ schema, (registry.compile config).2 = .ok schema →
        registry.Completes (registry.compile config).1 ∧
          ∀ type ∈ schema.types, registry.HasBases type.id type.baseChain := by
  have hformed : (registry.resolveAll config.failFast).faults = [] ↔ registry.WellFormed := by
    rw [hnever.indexed.faults_eq_nil_iff, wellFormed_iff]
    simp only [hnever.grounded.faultAhead?_eq]
  rw [snd_compile, fst_compile]
  by_cases hnil : (registry.resolveAll config.failFast).faults = []
  · have hresolved :=
      registry_lastRun_of_faults_eq_nil hnever.indexed hnever.grounded.consistent hnil
    have hwell := hformed.mp hnil
    rw [if_pos hnil, hresolved]
    refine ⟨⟨fun _ => hwell, fun _ => ⟨_, rfl⟩⟩, fun schema hschema => ?_⟩
    refine ⟨hwell.completes_resolved, fun type htype => ?_⟩
    rw [← Except.ok.inj hschema] at htype
    obtain ⟨hget, hchain⟩ := of_mem_ofRegistry htype
    rw [hchain]
    refine hwell.hasBases_baseChain hnever.indexed ?_
    rw [get?_resolved] at hget
    exact fun hnone => hget (by rw [hnone, Option.map_none])
  · rw [if_neg hnil, ← hformed]
    refine ⟨⟨?_, fun h => absurd h hnil⟩, fun _ hok => ?_⟩
    · rintro ⟨schema, hok⟩
      cases hok
    · cases hok

/-- A type that extends a later one, of which an element has the type that extends it. -/
def forwardReference : Registry :=
  (empty.append ⟨"", "D"⟩ (.extending "D" "B" none)).append ⟨"", "B"⟩
    (.complex { ComplexType.ofSequence
      [{ Element.named "child" with typeReference := some "D" }] with name := "B" })

theorem forwardReference_neverCompiled : forwardReference.NeverCompiled :=
  (neverCompiled_empty.grows (grows_append (by decide +kernel) rfl)).grows
    (grows_append (by decide +kernel) rfl)

/-- The type of an element may be derived from the type in which it is declared. -/
theorem compile_ok_iff_wellFormed_forwardReference :
    forwardReference.NeverCompiled ∧
      (forwardReference.compile .standard).2.toOption.map (·.types.map (·.baseChain)) =
        some [[⟨1⟩], []] ∧
      ((∃ schema, (forwardReference.compile .standard).2 = .ok schema) ↔
        forwardReference.WellFormed) :=
  ⟨forwardReference_neverCompiled, by decide +kernel,
    (compile_ok_iff_wellFormed forwardReference_neverCompiled .standard).1⟩

end XsdDerivation.Registry
