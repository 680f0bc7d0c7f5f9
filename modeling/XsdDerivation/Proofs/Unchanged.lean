import XsdDerivation.Proofs.Passes

/-!
# Visits that change nothing

Preparing a declaration a second time makes nothing new of it. Where all declarations have been
prepared a visit can only record bases, and a visit that records none leaves the registry as it is.
-/

namespace XsdDerivation

variable {registry : Registry}

/-! ### Preparing twice -/

/-- Resolving an element again changes nothing and finds the same fault. -/
theorem Element.resolve_resolve (registry : Registry) (element : Element) :
    (element.resolve registry).1.resolve registry = element.resolve registry := by
  rcases element with ⟨name, identifier, typeReference, minOccurs, maxOccurs, position, recorded⟩
  cases typeReference with
  | none => rfl
  | some reference =>
    cases recorded with
    | some id => rfl
    | none =>
      cases hfind : registry.findReferenced? reference with
      | none => simp [resolve, hfind]
      | some id => simp [resolve, hfind]

theorem resolveElements_resolveElements (registry : Registry) (elements : List Element) :
    resolveElements registry (resolveElements registry elements).1 =
      resolveElements registry elements := by
  induction elements with
  | nil => rfl
  | cons element rest ih =>
    have helement := element.resolve_resolve registry
    rw [resolveElements]
    generalize element.resolve registry = result at helement
    rcases result with ⟨changed, _ | fault⟩
    · rw [resolveElements, helement]
      dsimp only
      rw [ih]
    · rw [resolveElements, helement]

theorem resolveSequence_resolveSequence (registry : Registry) (sequence : Option (List Element)) :
    resolveSequence registry (resolveSequence registry sequence).1 =
      resolveSequence registry sequence := by
  cases sequence with
  | none => rfl
  | some elements =>
    rw [resolveSequence, resolveSequence, resolveElements_resolveElements]

theorem Derivation.prepare_prepare (registry : Registry) (parent : Option Element)
    (derivation : Derivation) :
    (derivation.prepare registry parent).1.prepare registry parent =
      derivation.prepare registry parent := by
  by_cases hrecorded : derivation.resolvedBase.isSome
  · have hprepare : derivation.prepare registry parent = (derivation, .nothing) := if_pos hrecorded
    rw [hprepare, hprepare]
  · have hnone : derivation.resolvedBase = none := by simpa using hrecorded
    have hsame := resolveSequence_resolveSequence registry derivation.sequence
    have hagain : ({ derivation with
        sequence := (resolveSequence registry derivation.sequence).1 } : Derivation).resolvedBase =
          none := hnone
    rw [prepare_of_unrecorded hnone, prepare_of_unrecorded hagain]
    simp only [hsame]
    rfl

namespace Declaration

/-- Preparing a declaration again changes nothing and leaves the same to be done. -/
theorem prepare_prepare (registry : Registry) (parent : Option Element)
    (declaration : Declaration) :
    (declaration.prepare registry parent).1.prepare registry parent =
      declaration.prepare registry parent := by
  cases declaration with
  | builtin => rfl
  | simple => rfl
  | complex type =>
    have hown := resolveSequence_resolveSequence registry type.sequence
    rw [prepare, ComplexType.prepare]
    generalize resolveSequence registry type.sequence = result at hown
    rcases result with ⟨own, _ | fault⟩
    · cases hcontent : type.content with
      | none => simp [prepare, ComplexType.prepare, hown]
      | some derivation =>
        simp [prepare, ComplexType.prepare, hown, derivation.prepare_prepare]
    · simp [prepare, ComplexType.prepare, hown]

/-- Preparing the declaration makes nothing new of it. -/
def IsPrepared (registry : Registry) (declaration : Declaration) : Prop :=
  (declaration.prepare registry none).1 = declaration

theorem isPrepared_prepare (registry : Registry) (parent : Option Element)
    (declaration : Declaration) :
    (declaration.prepare registry parent).1.IsPrepared registry := by
  rw [declaration.fst_prepare registry parent none, IsPrepared, prepare_prepare]

/-- A prepared declaration stays so when its base is recorded. -/
theorem IsPrepared.recordBase {declaration : Declaration} (base : TypeId)
    (hprepared : declaration.IsPrepared registry) :
    (declaration.recordBase base).IsPrepared registry := by
  cases declaration with
  | builtin => rfl
  | simple => rfl
  | complex type =>
    have hown : (resolveSequence registry type.sequence).1 = type.sequence := by
      have hsequence := congrArg (fun d => d.complexType?.bind (·.sequence)) hprepared
      rw [prepare, ComplexType.prepare] at hsequence
      generalize resolveSequence registry type.sequence = result at hsequence ⊢
      rcases result with ⟨own, _ | fault⟩
      · cases hcontent : type.content <;> simpa [complexType?, hcontent] using hsequence
      · simpa [complexType?] using hsequence
    rw [IsPrepared, Declaration.recordBase, prepare, ComplexType.prepare]
    generalize resolveSequence registry type.sequence = result at hown
    obtain ⟨own, fault⟩ := result
    subst hown
    cases fault with
    | some fault => rfl
    | none => cases hcontent : type.content <;> simp [Derivation.prepare]

/-- Recording a base in a declaration that is not derived changes nothing. -/
theorem recordBase_of_underived {declaration : Declaration} (base : TypeId)
    (hplain : declaration.derivation? = none) : declaration.recordBase base = declaration := by
  cases declaration with
  | builtin => rfl
  | simple => rfl
  | complex type =>
    obtain ⟨name, mixed, sequence, attributes, content, position⟩ := type
    have hcontent : content = none := hplain
    subst hcontent
    rfl

end Declaration

/-! ### Prepared types -/

namespace Registry

variable {other : Registry} {id base : TypeId} {declaration : Declaration}

/-- The declaration of the type, if it is registered, has been prepared. -/
def IsPrepared (registry : Registry) (id : TypeId) : Prop :=
  ∀ declaration, registry.get? id = some declaration → declaration.IsPrepared registry

theorem IsPrepared.congr (hprepared : registry.IsPrepared id)
    (hfind : other.findReferenced? = registry.findReferenced?)
    (hget : other.get? id = registry.get? id) : other.IsPrepared id := by
  intro declaration hdeclaration
  rw [Declaration.IsPrepared, Declaration.prepare_congr hfind]
  exact hprepared declaration (hget ▸ hdeclaration)

/-- Replacing a declaration by itself changes nothing. -/
theorem replace_self (hget : registry.get? id = some declaration) :
    registry.replace id declaration = registry := by
  refine eq_of_forget (forget_replace hget rfl) fun other => ?_
  by_cases heq : other = id
  · rw [heq, get?_replace_self hget, hget]
  · exact get?_replace_of_ne heq

/-- An attempt to record a base that records none changes nothing. -/
theorem recordBase_of_none (hnone : (registry.recordBase id base).recordedBase? id = none) :
    registry.recordBase id base = registry := by
  cases hget : registry.get? id with
  | none => rw [recordBase, hget]
  | some declaration =>
    have hplain : declaration.derivation? = none := by
      rw [recordedBase?, get?_recordBase_self, hget, Option.map_some, Option.bind_some,
        Declaration.recordedBase?_recordBase] at hnone
      exact Option.map_eq_none_iff.mp hnone
    rw [recordBase, hget]
    dsimp only
    rw [Declaration.recordBase_of_underived base hplain, replace_self hget]

end Registry

namespace Run

variable {run : Run} {parent : Option Element} {id other base : TypeId}
  {declaration prepared : Declaration} {remainder : Remainder}

/-- An attempt to record a base that records none changes nothing. -/
theorem registry_recordBase_of_none
    (hnone : (run.recordBase id base).registry.recordedBase? id = none) :
    (run.recordBase id base).registry = run.registry := by
  unfold recordBase at hnone ⊢
  by_cases hfailed : run.hasFailed base = true
  · rw [if_pos hfailed]
  · rw [if_neg hfailed] at hnone ⊢
    exact Registry.recordBase_of_none hnone

/-- Every type whose visit has begun has been prepared. -/
def Prepares (run : Run) : Prop :=
  ∀ id, run.Seen id → run.registry.IsPrepared id

theorem prepares_start (registry : Registry) : (start registry).Prepares := by
  intro id hseen
  simp [Seen, start] at hseen

theorem Prepares.enter (hprepares : run.Prepares) (hopens : run.Opens id declaration)
    (hprepare : declaration.prepare run.registry parent = (prepared, remainder)) :
    (run.enter id prepared).Prepares := by
  intro other hseen
  by_cases heq : other = id
  · subst heq
    have hself : (run.enter other prepared).registry.get? other = some prepared :=
      Registry.get?_replace_self hopens.get?
    intro found hfound
    have hdone := declaration.isPrepared_prepare run.registry parent
    rw [hprepare] at hdone
    have hfind : (run.enter other prepared).registry.findReferenced? =
        run.registry.findReferenced? := Registry.findReferenced?_replace ..
    rw [← Option.some.inj (hself.symm.trans hfound), Declaration.IsPrepared,
      Declaration.prepare_congr hfind]
    exact hdone
  · have hseen := (seen_enter_iff.mp hseen).resolve_left heq
    exact (hprepares other hseen).congr rfl (Registry.get?_replace_of_ne heq)

theorem Prepares.recordBase (hprepares : run.Prepares) : (run.recordBase id base).Prepares := by
  intro other hseen
  have hbefore := hprepares other (seen_recordBase_iff.mp hseen)
  unfold Run.recordBase
  split
  · exact hbefore
  · have hfind : (run.registry.recordBase id base).findReferenced? =
        run.registry.findReferenced? :=
      Registry.findReferenced?_eq_of_forget Registry.forget_recordBase
    by_cases heq : other = id
    · subst heq
      intro found hfound
      rw [Registry.get?_recordBase_self] at hfound
      obtain ⟨original, horiginal, rfl⟩ := Option.map_eq_some_iff.mp hfound
      rw [Declaration.IsPrepared, Declaration.prepare_congr hfind]
      exact (hbefore original horiginal).recordBase base
    · exact hbefore.congr hfind (Registry.get?_recordBase_of_ne heq)

/-- The states of types do not matter to whether they have been prepared. -/
theorem Prepares.of_seen_iff {after : Run} (hprepares : run.Prepares)
    (hregistry : after.registry = run.registry) (hseen : ∀ id, after.Seen id ↔ run.Seen id) :
    after.Prepares := by
  intro id hid
  rw [hregistry]
  exact hprepares id ((hseen id).mp hid)

end Run

namespace Visit

variable {parent : Option Element} {run after : Run} {id : TypeId} {fault : Option Fault}

/-- A visit prepares the types that it enters. -/
theorem prepares (hvisit : Visit parent run id after fault) (hprepares : run.Prepares) :
    after.Prepares := by
  induction hvisit with
  | settled => exact hprepares
  | missing => exact hprepares
  | circular => exact hprepares
  | plain hopens hprepare =>
    exact (hprepares.enter hopens hprepare).of_seen_iff rfl fun _ => Run.seen_complete_iff rfl
  | faulty hopens hprepare =>
    exact (hprepares.enter hopens hprepare).of_seen_iff rfl fun _ => Run.seen_fail_iff rfl
  | stuck hopens hprepare hbase ih =>
    exact (ih (hprepares.enter hopens hprepare)).of_seen_iff rfl
      fun _ => Run.seen_fail_iff hbase.active_eq
  | derived hopens hprepare hbase ih =>
    exact (ih (hprepares.enter hopens hprepare)).recordBase.of_seen_iff rfl
      fun _ => Run.seen_complete_iff (Run.active_recordBase.trans hbase.active_eq)

/-- Entering a type that has been prepared changes nothing. -/
theorem registry_enter {declaration prepared : Declaration} {remainder : Remainder}
    (hopens : run.Opens id declaration)
    (hprepare : declaration.prepare run.registry parent = (prepared, remainder))
    (hprepared : run.registry.IsPrepared id) :
    (run.enter id prepared).registry = run.registry := by
  have hsame : prepared = declaration := by
    have hdone := hprepared declaration hopens.get?
    rwa [Declaration.IsPrepared, declaration.fst_prepare run.registry none parent,
      hprepare] at hdone
  rw [hsame]
  exact Registry.replace_self hopens.get?

/-- Where all types have been prepared a visit that records no base changes nothing. -/
theorem registry_eq (hvisit : Visit parent run id after fault)
    (hprepared : ∀ other, run.registry.IsPrepared other)
    (hrecords : ∀ other base, after.registry.recordedBase? other = some base →
      run.registry.recordedBase? other = some base) :
    after.registry = run.registry := by
  induction hvisit with
  | settled => rfl
  | missing => rfl
  | circular => rfl
  | plain hopens hprepare => exact registry_enter hopens hprepare (hprepared _)
  | faulty hopens hprepare => exact registry_enter hopens hprepare (hprepared _)
  | @stuck run after id base declaration prepared fault hopens hprepare hbase ih =>
    have henter := registry_enter hopens hprepare (hprepared id)
    rw [henter] at ih
    exact ih hprepared hrecords
  | @derived run after id base declaration prepared hopens hprepare hbase ih =>
    have henter := registry_enter hopens hprepare (hprepared id)
    rw [henter] at ih
    have hpending : run.registry.recordedBase? id = none := by
      have hnamed : (declaration.prepare run.registry parent).2.base? = some base := by
        rw [hprepare]
        rfl
      rw [Registry.recordedBase?, hopens.get?, Option.bind_some,
        (Declaration.base_of_prepare hnamed).2]
    have hkeep : after.registry.get? id = run.registry.get? id := by
      rw [hbase.get?_eq_of_seen (.inl (List.mem_cons_self ..)), henter]
    have hafter : after.registry = run.registry := by
      refine ih hprepared fun other next hnext => ?_
      have hne : other ≠ id := by
        rintro rfl
        rw [Registry.recordedBase?, hkeep, ← Registry.recordedBase?, hpending] at hnext
        cases hnext
      refine hrecords other next ?_
      rw [← hnext]
      exact congrArg (·.bind Declaration.recordedBase?) (Run.get?_recordBase_of_ne hne)
    have hnone : (after.recordBase id base).registry.recordedBase? id = none := by
      cases hrecorded : (after.recordBase id base).registry.recordedBase? id with
      | none => rfl
      | some next => exact absurd (hrecords id next hrecorded) (by simp [hpending])
    exact (Run.registry_recordBase_of_none hnone).trans hafter

end Visit

/-- Where all types have been prepared visits that record no base change nothing. -/
theorem Run.registry_visitEach_eq {run : Run} {calls : List (Option Element × TypeId)}
    (hprepared : ∀ id, run.registry.IsPrepared id)
    (hrecords : ∀ id base, (run.visitEach calls).registry.recordedBase? id = some base →
      run.registry.recordedBase? id = some base) :
    (run.visitEach calls).registry = run.registry := by
  induction calls generalizing run with
  | nil => rfl
  | cons call calls ih =>
    have hvisit := run.visit_spec call.1 call.2
    have hkeep (id base : TypeId)
        (hrecorded : (run.visit call.1 call.2).1.registry.recordedBase? id = some base) :
        ((run.visit call.1 call.2).1.visitEach calls).registry.recordedBase? id = some base :=
      visitEach_induction (motive := fun run => run.registry.recordedBase? id = some base)
        (fun run hrecorded call _ => (run.visit_spec call.1 call.2).recordedBase?_eq hrecorded)
        hrecorded
    have hfirst : (run.visit call.1 call.2).1.registry = run.registry :=
      hvisit.registry_eq hprepared fun id base hnext => hrecords id base (hkeep id base hnext)
    rw [visitEach_cons] at hrecords ⊢
    rw [← hfirst] at hprepared hrecords ⊢
    exact ih hprepared hrecords

end XsdDerivation
