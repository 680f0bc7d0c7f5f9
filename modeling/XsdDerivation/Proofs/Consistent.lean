import XsdDerivation.Proofs.Outcome

/-!
# Runs over consistent registries

A registry is consistent if it records nothing but what its references name, and records a base
last. A run keeps this. At every moment of a run the types resolved so far have everything
recorded that their references name, except for a base that failed in the same run.
-/

namespace XsdDerivation

variable {registry : Registry} {id base : TypeId}

/-- Every declaration of the registry is consistent. -/
def Registry.Consistent (registry : Registry) : Prop :=
  ∀ id declaration, registry.get? id = some declaration →
    declaration.Consistent registry.findReferenced?

namespace Registry.Consistent

/-- In a consistent registry preparing a type finds its local fault. -/
theorem fault?_remainderOf (hconsistent : registry.Consistent) (parent : Option Element)
    (id : TypeId) :
    (registry.remainderOf parent id).fault? = registry.localFault? parent id := by
  rw [remainderOf, localFault?]
  cases hget : registry.get? id with
  | none => rfl
  | some declaration =>
    rw [Option.elim_some, Option.bind_some,
      (Declaration.prepare_spec parent (hconsistent id declaration hget)).1,
      Declaration.declaredRemainder]
    cases declaration.fault? registry.findReferenced? parent with
    | some fault => rfl
    | none =>
      dsimp only
      split
      · rfl
      · cases declaration.base? registry.findReferenced? <;> rfl

/-- In a consistent registry the base that remains is the next one of the walk, if it is not
recorded yet. -/
theorem pendingBase?_eq (hconsistent : registry.Consistent) (id : TypeId) :
    registry.pendingBase? id =
      if (registry.recordedBase? id).isSome then none else registry.nextBase? id := by
  rw [pendingBase?, remainderOf, nextBase?, localFault?, declaredBase?, recordedBase?]
  cases hget : registry.get? id with
  | none => rfl
  | some declaration =>
    rw [Option.elim_some, Option.bind_some, Option.bind_some, Option.bind_some,
      (Declaration.prepare_spec none (hconsistent id declaration hget)).1,
      Declaration.declaredRemainder]
    cases declaration.fault? registry.findReferenced? none with
    | some fault => simp [Remainder.base?]
    | none =>
      cases declaration.recordedBase? with
      | some base => rfl
      | none => cases declaration.base? registry.findReferenced? <;> rfl

/-- A recorded base is the declared one, and the type has no fault. -/
theorem of_recordedBase? (hconsistent : registry.Consistent)
    (hrecorded : registry.recordedBase? id = some base) :
    registry.localFault? none id = none ∧ registry.declaredBase? id = some base := by
  obtain ⟨declaration, hget, hbase⟩ := Option.bind_eq_some_iff.mp hrecorded
  obtain ⟨hresolved, hfault⟩ := (hconsistent id declaration hget).recorded (by simp [hbase])
  rw [localFault?, declaredBase?, hget, Option.bind_some, Option.bind_some]
  refine ⟨hfault, ?_⟩
  rw [← Declaration.recordedBase?_resolved, hresolved, hbase]

/-- The base that remains to be resolved is the next one of the walk. -/
theorem nextBase?_of_pendingBase? (hconsistent : registry.Consistent)
    (hpending : registry.pendingBase? id = some base) : registry.nextBase? id = some base := by
  rw [hconsistent.pendingBase?_eq] at hpending
  split at hpending
  · cases hpending
  · exact hpending

end Registry.Consistent

namespace Declaration

variable {find : String → Option TypeId} {declaration : Declaration}

/-- A declaration without anything recorded is consistent. -/
theorem consistent_of_forget (hforget : declaration.forget = declaration) :
    declaration.Consistent find := by
  refine ⟨fun element helement => .inl ?_, fun hsome => ?_⟩
  · rw [← hforget, forget, declaredElements_annotate] at helement
    obtain ⟨other, _, rfl⟩ := List.mem_map.mp helement
    rfl
  · rw [← hforget, recordedBase?_forget] at hsome
    cases hsome

/-- A resolved declaration without fault is consistent. -/
theorem consistent_resolved (hfault : declaration.fault? find none = none) :
    (declaration.resolved find).Consistent find := by
  refine ⟨fun element helement => .inr ?_, fun _ => ⟨?_, ?_⟩⟩
  · rw [resolved, declaredElements_annotate] at helement
    obtain ⟨other, _, rfl⟩ := List.mem_map.mp helement
    rfl
  · rw [← resolved_forget, forget_resolved, resolved_forget]
  · rw [← fault?_forget, forget_resolved, fault?_forget, hfault]

/-- A declaration with a fault has no recorded base. -/
theorem Consistent.recordedBase?_of_fault {parent : Option Element} {fault : Fault}
    (hconsistent : declaration.Consistent find)
    (hremainder : declaration.declaredRemainder find parent = .fault fault) :
    declaration.recordedBase? = none := by
  cases hrecorded : declaration.recordedBase? with
  | none => rfl
  | some base =>
    have hsome : declaration.recordedBase?.isSome := by rw [hrecorded]; rfl
    have hnone := (hconsistent.recorded hsome).2
    have hfault : declaration.fault? find parent = none :=
      fault?_eq_none_iff.mpr (fault?_eq_none_iff.mp hnone)
    rw [declaredRemainder, hfault, if_pos hsome] at hremainder
    cases hremainder

/-- A declaration of which the base remains to be resolved has no fault, names the base and has
not recorded it. -/
theorem of_declaredRemainder {parent : Option Element} {base : TypeId}
    (hremainder : declaration.declaredRemainder find parent = .base base) :
    declaration.fault? find none = none ∧ declaration.base? find = some base ∧
      declaration.recordedBase? = none := by
  unfold declaredRemainder at hremainder
  split at hremainder
  · cases hremainder
  · rename_i hfault
    split at hremainder
    · cases hremainder
    · rename_i hrecorded
      refine ⟨fault?_eq_none_iff.mpr (fault?_eq_none_iff.mp hfault), ?_, by simpa using hrecorded⟩
      cases hbase : declaration.base? find with
      | none => simp [hbase] at hremainder
      | some other => simpa [hbase] using hremainder

end Declaration

/-! ### What a run records -/

namespace Run

/-- What a run over a consistent registry has recorded so far. -/
structure Sound (registry : Registry) (run : Run) : Prop extends run.Over registry where
  /-- Nothing is recorded that the references do not name. -/
  consistent : ∀ id declaration, run.registry.get? id = some declaration →
    declaration.Consistent registry.findReferenced?
  /-- A type that failed has no recorded base. -/
  unrecorded : ∀ id ∈ run.failed, run.registry.recordedBase? id = none
  /-- A resolved type has everything recorded, or a base that failed. -/
  completed : ∀ id ∈ run.completed,
    run.registry.get? id =
        (registry.get? id).map (Declaration.resolved registry.findReferenced?) ∨
      ∃ base ∈ run.failed, registry.declaredBase? id = some base ∧
        run.registry.recordedBase? id = none

variable {run : Run} {declaration prepared : Declaration}

theorem sound_start (hconsistent : registry.Consistent) : (start registry).Sound registry :=
  { over_start with
    consistent := hconsistent
    unrecorded := by simp [start]
    completed := by simp [start] }

/-- A run over a consistent registry keeps it consistent. -/
theorem Sound.consistent_registry (hsound : run.Sound registry) : run.registry.Consistent := by
  intro id declaration hget
  rw [Registry.findReferenced?_eq_of_forget hsound.forget_eq]
  exact hsound.consistent id declaration hget

/-- What a prepared type has in common with the declaration in the registry. -/
theorem Sound.prepared_spec {parent : Option Element} {remainder : Remainder}
    (hsound : run.Sound registry) (hopens : run.Opens id declaration)
    (hprepare : declaration.prepare run.registry parent = (prepared, remainder)) :
    registry.get? id = some declaration ∧
      remainder = declaration.declaredRemainder registry.findReferenced? parent ∧
      Declaration.Prepared registry.findReferenced? declaration prepared remainder := by
  have hget : registry.get? id = some declaration := by
    rw [← hsound.untouched id hopens.not_seen, hopens.get?]
  have hfind := Registry.findReferenced?_eq_of_forget hsound.forget_eq
  have hconsistent : declaration.Consistent run.registry.findReferenced? :=
    hfind ▸ hsound.consistent id declaration hopens.get?
  have hspec := Declaration.prepare_spec parent hconsistent
  rw [hprepare, hfind] at hspec
  exact ⟨hget, hspec⟩

theorem Sound.enter {parent : Option Element} {remainder : Remainder} (hsound : run.Sound registry)
    (hopens : run.Opens id declaration)
    (hprepare : declaration.prepare run.registry parent = (prepared, remainder)) :
    (run.enter id prepared).Sound registry := by
  obtain ⟨_, _, hprepared⟩ := hsound.prepared_spec hopens hprepare
  have hkeep : ∀ other, other ≠ id →
      (run.enter id prepared).registry.get? other = run.registry.get? other :=
    fun other hne => Registry.get?_replace_of_ne hne
  refine { hsound.toOver.enter hopens hprepared.forget_eq with
    consistent := fun other found hfound => ?_
    unrecorded := fun other hfailed => ?_
    completed := fun other hcompleted => ?_ }
  · by_cases heq : other = id
    · subst heq
      have hself : (run.enter other prepared).registry.get? other = some prepared :=
        Registry.get?_replace_self hopens.get?
      rw [Option.some.inj (hfound.symm.trans hself)]
      exact hprepared.consistent
    · exact hsound.consistent other found (hkeep other heq ▸ hfound)
  · have hne : other ≠ id := fun heq => hopens.not_failed (heq ▸ hfailed)
    rw [Registry.recordedBase?, hkeep other hne]
    exact hsound.unrecorded other hfailed
  · have hne : other ≠ id := fun heq => hopens.not_completed (heq ▸ hcompleted)
    rw [Registry.recordedBase?, hkeep other hne]
    exact hsound.completed other hcompleted

theorem Sound.complete {rest : List TypeId} (hsound : run.Sound registry)
    (hactive : run.active = id :: rest)
    (hdone : run.registry.get? id =
        (registry.get? id).map (Declaration.resolved registry.findReferenced?) ∨
      ∃ base ∈ run.failed, registry.declaredBase? id = some base ∧
        run.registry.recordedBase? id = none) :
    (run.complete id).Sound registry := by
  refine { hsound.toOver.complete hactive with
    consistent := hsound.consistent
    unrecorded := hsound.unrecorded
    completed := fun other hcompleted => ?_ }
  rcases List.mem_cons.mp hcompleted with rfl | hcompleted
  · exact hdone
  · exact hsound.completed other hcompleted

theorem Sound.fail {rest : List TypeId} (hsound : run.Sound registry)
    (hactive : run.active = id :: rest) (hnone : run.registry.recordedBase? id = none) :
    (run.fail id).Sound registry := by
  refine { hsound.toOver.fail hactive with
    consistent := hsound.consistent
    unrecorded := fun other hfailed => ?_
    completed := fun other hcompleted => ?_ }
  · rcases List.mem_cons.mp hfailed with rfl | hfailed
    · exact hnone
    · exact hsound.unrecorded other hfailed
  · refine (hsound.completed other hcompleted).imp_right fun ⟨base, hfailed, hbase⟩ => ?_
    exact ⟨base, List.mem_cons_of_mem _ hfailed, hbase⟩

theorem Sound.recordBase (hsound : run.Sound registry) (hactive : id ∈ run.active)
    (hget : run.registry.get? id = some prepared) (base : TypeId)
    (hconsistent : (prepared.recordBase base).Consistent registry.findReferenced?) :
    (run.recordBase id base).Sound registry := by
  refine { hsound.toOver.recordBase hactive base with
    consistent := fun other found hfound => ?_
    unrecorded := fun other hfailed => ?_
    completed := fun other hcompleted => ?_ }
  · by_cases heq : other = id
    · subst heq
      unfold Run.recordBase at hfound
      split at hfound
      · exact hsound.consistent other found hfound
      · rw [Registry.get?_recordBase_self, hget] at hfound
        exact Option.some.inj hfound ▸ hconsistent
    · rw [get?_recordBase_of_ne heq] at hfound
      exact hsound.consistent other found hfound
  · rw [failed_recordBase] at hfailed
    have hne := hsound.ne_of_active hactive (.inr hfailed)
    rw [Registry.recordedBase?, get?_recordBase_of_ne hne]
    exact hsound.unrecorded other hfailed
  · rw [completed_recordBase] at hcompleted
    have hne := hsound.ne_of_active hactive (.inl hcompleted)
    rw [Registry.recordedBase?, get?_recordBase_of_ne hne, failed_recordBase]
    exact hsound.completed other hcompleted

end Run

namespace Visit

variable {parent : Option Element} {run after : Run} {declaration prepared : Declaration}
  {fault : Option Fault}

/-- The declaration of a type as its visit has prepared it is still there when the visit of the
base has ended. -/
theorem get?_prepared (hopens : run.Opens id declaration)
    (hvisit : Visit parent (run.enter id prepared) base after fault) :
    after.registry.get? id = some prepared := by
  have hseen : (run.enter id prepared).Seen id := .inl (List.mem_cons_self ..)
  rw [hvisit.get?_eq_of_seen hseen]
  exact Registry.get?_replace_self hopens.get?

/-- A visit in a run over a consistent registry records what the references name. -/
theorem sound (hvisit : Visit parent run id after fault) (hsound : run.Sound registry) :
    after.Sound registry := by
  induction hvisit with
  | settled => exact hsound
  | missing => exact hsound
  | circular => exact hsound
  | @plain run id declaration prepared hopens hprepare =>
    obtain ⟨hget, _, hprepared⟩ := hsound.prepared_spec hopens hprepare
    refine (hsound.enter hopens hprepare).complete rfl (.inl ?_)
    rw [hget, Option.map_some, ← hprepared.resolved rfl]
    exact Registry.get?_replace_self hopens.get?
  | @faulty run id declaration prepared fault hopens hprepare =>
    obtain ⟨hget, hremainder, hprepared⟩ := hsound.prepared_spec hopens hprepare
    refine (hsound.enter hopens hprepare).fail rfl ?_
    have hself : (run.enter id prepared).registry.get? id = some prepared :=
      Registry.get?_replace_self hopens.get?
    rw [Registry.recordedBase?, hself, Option.bind_some, hprepared.recordedBase?_eq]
    exact (hsound.consistent id declaration hopens.get?).recordedBase?_of_fault hremainder.symm
  | @stuck run after id base declaration prepared fault hopens hprepare hbase ih =>
    obtain ⟨_, hremainder, hprepared⟩ := hsound.prepared_spec hopens hprepare
    refine (ih (hsound.enter hopens hprepare)).fail hbase.active_eq ?_
    obtain ⟨_, _, hnone⟩ := Declaration.of_declaredRemainder hremainder.symm
    rw [Registry.recordedBase?, get?_prepared hopens hbase, Option.bind_some,
      hprepared.recordedBase?_eq, hnone]
  | @derived run after id base declaration prepared hopens hprepare hbase ih =>
    obtain ⟨hget, hremainder, hprepared⟩ := hsound.prepared_spec hopens hprepare
    have hafter : after.Sound registry := ih (hsound.enter hopens hprepare)
    have hself := get?_prepared hopens hbase
    have hactive : after.active = id :: run.active := hbase.active_eq
    have hresolved := hprepared.recordBase base rfl
    obtain ⟨hfault, hnamed, hnone⟩ := Declaration.of_declaredRemainder hremainder.symm
    have hrecord := hafter.recordBase (hactive ▸ List.mem_cons_self ..) hself base
      (hresolved ▸ Declaration.consistent_resolved hfault)
    refine hrecord.complete (Run.active_recordBase.trans hactive) ?_
    by_cases hfailed : base ∈ after.failed
    · -- The base failed earlier in this run, so that it is not recorded.
      have hsame : after.recordBase id base = after := by
        rw [Run.recordBase, Run.hasFailed, if_pos (by simpa using hfailed)]
      rw [hsame]
      refine .inr ⟨base, hfailed, ?_, ?_⟩
      · rw [Registry.declaredBase?, hget, Option.bind_some, hnamed]
      · rw [Registry.recordedBase?, hself, Option.bind_some, hprepared.recordedBase?_eq, hnone]
    · have hrecorded : (after.recordBase id base).registry.get? id =
          some (prepared.recordBase base) := by
        rw [Run.recordBase, Run.hasFailed, if_neg (by simpa using hfailed)]
        exact (Registry.get?_recordBase_self).trans (by rw [hself]; rfl)
      exact .inl (by rw [hrecorded, hget, Option.map_some, hresolved])

end Visit

end XsdDerivation
