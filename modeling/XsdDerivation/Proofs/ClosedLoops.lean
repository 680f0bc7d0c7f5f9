import Mathlib.Data.List.Induction
import XsdDerivation.Proofs.Growth
import XsdDerivation.Proofs.History

/-!
# Loops of recorded bases

A pass finds a loop of declared bases only while none of them is recorded. Where an earlier pass
has recorded a base of the loop, which it does if it resolves a type although the base of its base
has failed, the walks of the loop stop at that base and find no fault. This file says exactly when
a pass records the last base of such a loop.
-/

namespace XsdDerivation.Registry

variable {registry : Registry} {failFast : Bool} {id base member : TypeId}

/-- A pass resolves the type unless it stops before: it makes all visits, or pending bases lead
to the type from one that is visited before any with a fault ahead. -/
def Covers (registry : Registry) (failFast : Bool) (id : TypeId) : Prop :=
  failFast = true →
    ∃ first ∈ Run.faultless registry registry.ids, Reaches registry.pendingBase? first id

/-- A pass over the registry leaves a loop of recorded bases through the type. -/
structure ClosesLoop (registry : Registry) (failFast : Bool) (id : TypeId) : Prop where
  /-- The type is based on itself. -/
  loops : Loops registry.declaredBase? id
  /-- No type of the loop has a fault of its own. -/
  faultless : ∀ member, Reaches registry.declaredBase? id member →
    registry.localFault? none member = none
  /-- A base of the loop has been recorded by an earlier pass. -/
  recorded : ∃ member, Reaches registry.declaredBase? id member ∧
    registry.recordedBase? member ≠ none
  /-- The pass resolves all types of the loop of which the base has not been recorded. -/
  covered : ∀ member, Reaches registry.declaredBase? id member →
    registry.recordedBase? member = none → registry.Covers failFast member

/-! ### What a pass records -/

/-- The bases recorded after a pass are declared bases of types without a fault. -/
theorem Consistent.of_recordedBase?_lastRun (hconsistent : registry.Consistent)
    (hrecorded : (registry.lastRun failFast).registry.recordedBase? id = some base) :
    registry.localFault? none id = none ∧ registry.declaredBase? id = some base := by
  have hforget := forget_lastRun registry failFast
  rw [← localFault?_eq_of_forget hforget, ← declaredBase?_eq_of_forget hforget]
  exact (hconsistent.lastRun failFast).of_recordedBase? hrecorded

/-- A pass keeps the recorded bases. -/
theorem recordedBase?_lastRun (hrecorded : registry.recordedBase? id = some base) :
    (registry.lastRun failFast).registry.recordedBase? id = some base :=
  Run.visitAll_induction (motive := fun run => run.registry.recordedBase? id = some base)
    (fun run hrun other _ => (run.visit_spec none other).recordedBase?_eq hrun) hrecorded

/-- A type that a pass resolves is covered by it. -/
theorem Indexed.covers_of_completed (hindexed : registry.Indexed)
    (hcompleted : id ∈ (registry.lastRun failFast).completed) :
    registry.Covers failFast id := by
  rintro rfl
  obtain ⟨_, hmem⟩ := Run.resting_start.visitAll_true hindexed rfl fun id hid => mem_ids_iff.mp hid
  exact ((hmem id).mp hcompleted).resolve_left List.not_mem_nil

/-- A pass resolves a type that it covers, if the type has no fault ahead. -/
theorem Indexed.mem_completed_of_covers (hindexed : registry.Indexed)
    (hget : registry.get? id ≠ none) (hahead : registry.faultAhead? none id = none)
    (hcovers : registry.Covers failFast id) : id ∈ (registry.lastRun failFast).completed := by
  have hids (id : TypeId) (hid : id ∈ registry.ids) : registry.get? id ≠ none := mem_ids_iff.mp hid
  cases failFast with
  | true =>
    obtain ⟨_, hmem⟩ := Run.resting_start.visitAll_true hindexed rfl hids
    exact (hmem id).mpr (.inr (hcovers rfl))
  | false =>
    -- A pass that does not stop settles every type, and only types with a fault ahead fail.
    have hsettled : (registry.lastRun false).isSettled id = true := by
      rw [lastRun, Run.visitAll_false]
      refine ((Run.resting_start.visitEach hindexed fun call hcall => ?_).2 id).mpr
        (.inr ⟨(none, id), List.mem_map.mpr ⟨id, mem_ids_iff.mpr hget, rfl⟩, .refl⟩)
      obtain ⟨other, hother, rfl⟩ := List.mem_map.mp hcall
      exact hids other hother
    rcases Run.isSettled_iff.mp hsettled with hcompleted | hfailed
    · exact hcompleted
    · have hrest : (registry.lastRun false).Resting registry := hindexed.resting_lastRun
      exact absurd hahead (hrest.failed id hfailed)

/-! ### When a pass closes a loop -/

/-- In a loop of declared bases without faults of its own the pending bases are those that are
not recorded. -/
theorem Consistent.pendingBase?_of_faultless (hconsistent : registry.Consistent)
    (hfault : registry.localFault? none id = none) (hnone : registry.recordedBase? id = none) :
    registry.pendingBase? id = registry.declaredBase? id := by
  rw [hconsistent.pendingBase?_eq, hnone, nextBase?, hfault]
  rfl

/-- The types of a loop with a recorded base have no fault ahead: the walks stop there. -/
theorem ClosesLoop.faultAhead?_eq (hcloses : registry.ClosesLoop failFast id)
    (hconsistent : registry.Consistent) (hmember : Reaches registry.declaredBase? id member) :
    registry.faultAhead? none member = none := by
  have hpending (a b : TypeId) (hstep : registry.pendingBase? a = some b) :
      registry.declaredBase? a = some b := (declaredBase?_of_pendingBase? hstep).1
  cases hahead : registry.faultAhead? none member with
  | none => rfl
  | some fault =>
    have hsome : registry.faultAhead? none member ≠ none := by
      rw [hahead]
      exact Option.some_ne_none _
    obtain ⟨last, hlast, hdefect⟩ := faultAhead?_ne_none_iff.mp hsome
    have hreach : Reaches registry.declaredBase? id last :=
      hmember.trans (hlast.congr fun a b _ hstep => hpending a b hstep)
    rcases hdefect with hfault | hloop
    · rw [hconsistent.fault?_remainderOf] at hfault
      exact absurd (hcloses.faultless last hreach) hfault
    · obtain ⟨stop, hstop, hrecorded⟩ := hcloses.recorded
      have hback : Reaches registry.declaredBase? last stop :=
        (hcloses.loops.reaches_back hreach).trans hstop
      have hnone : registry.pendingBase? stop = none := by
        rw [hconsistent.pendingBase?_eq, if_pos (Option.isSome_iff_ne_none.mpr hrecorded)]
      exact absurd hnone (hloop.not_stop (hloop.reaches_of_extends hpending hback))

/-- **When a pass closes a loop.** A type is on a loop of recorded bases after a pass exactly if
it is on a loop of declared bases without faults of their own, one of which has been recorded
before, and the pass covers the types of the others. -/
theorem loops_lastRun_iff (hindexed : registry.Indexed) (hconsistent : registry.Consistent) :
    Loops (registry.lastRun failFast).registry.recordedBase? id ↔
      registry.ClosesLoop failFast id := by
  have hdeclared (a b : TypeId)
      (hstep : (registry.lastRun failFast).registry.recordedBase? a = some b) :
      registry.declaredBase? a = some b := (hconsistent.of_recordedBase?_lastRun hstep).2
  have hrest : (registry.lastRun failFast).Resting registry := hindexed.resting_lastRun
  have hsound : (registry.lastRun failFast).Sound registry := hconsistent.sound_lastRun
  constructor
  · intro hloop
    have hmember (member : TypeId) (hreach : Reaches registry.declaredBase? id member) :
        (registry.lastRun failFast).registry.recordedBase? member ≠ none :=
      hloop.not_stop (hloop.reaches_of_extends hdeclared hreach)
    have hfaultless (member : TypeId) (hreach : Reaches registry.declaredBase? id member) :
        registry.localFault? none member = none := by
      obtain ⟨base, hbase⟩ := Option.ne_none_iff_exists'.mp (hmember member hreach)
      exact (hconsistent.of_recordedBase?_lastRun hbase).1
    have hcompleted (member : TypeId) (hreach : Reaches registry.declaredBase? id member)
        (hnone : registry.recordedBase? member = none) :
        member ∈ (registry.lastRun failFast).completed :=
      hconsistent.mem_completed hindexed hnone (hmember member hreach)
    have hloops : Loops registry.declaredBase? id :=
      hloop.congr fun a b _ hstep => hdeclared a b hstep
    refine ⟨hloops, hfaultless, ?_, fun member hreach hnone =>
      hindexed.covers_of_completed (hcompleted member hreach hnone)⟩
    by_cases hrecorded : ∃ member, Reaches registry.declaredBase? id member ∧
        registry.recordedBase? member ≠ none
    · exact hrecorded
    · -- A loop without a recorded base would have been found by the walk.
      have hnone (member : TypeId) (hreach : Reaches registry.declaredBase? id member) :
          registry.recordedBase? member = none := by
        cases hbase : registry.recordedBase? member with
        | none => rfl
        | some base =>
          exact absurd ⟨member, hreach, by rw [hbase]; exact Option.some_ne_none _⟩ hrecorded
      have hpending : Loops registry.pendingBase? id := hloops.congr fun a b hreach hstep => by
        rw [hconsistent.pendingBase?_of_faultless (hfaultless a hreach) (hnone a hreach), hstep]
      have hmem := hcompleted id .refl (hnone id .refl)
      have hfailed := hrest.defects id id (Run.isSettled_iff.mpr (.inl hmem)) .refl (.inr hpending)
      exact absurd (hsound.unrecorded id hfailed) (hmember id .refl)
  · intro hcloses
    refine hcloses.loops.congr fun member base hreach hbase => ?_
    cases hbefore : registry.recordedBase? member with
    | some recorded =>
      have hsame := (hconsistent.of_recordedBase? hbefore).2
      rw [hbase, Option.some.injEq] at hsame
      rw [hsame]
      exact recordedBase?_lastRun hbefore
    | none =>
      have hget : registry.get? member ≠ none :=
        get?_ne_none_iff.mpr (lt_size_of_declaredBase? member base hbase)
      have hcompleted := hindexed.mem_completed_of_covers hget
        (hcloses.faultAhead?_eq hconsistent hreach) (hcloses.covered member hreach hbefore)
      rcases hsound.completed member hcompleted with hresolved | ⟨next, hfailed, hnext, _⟩
      · rw [← recordedBase?_resolved] at hbase
        rw [recordedBase?, hresolved]
        rw [recordedBase?, get?_resolved] at hbase
        exact hbase
      · -- The base is on the loop, too, so that it cannot have failed.
        rw [hbase, Option.some.injEq] at hnext
        exact absurd (hcloses.faultAhead?_eq hconsistent (hreach.tail hbase))
          (hnext ▸ hrest.failed next hfailed)

/-! ### Histories -/

variable {start : Registry} {history : List Operation}

/-- A history of fillings and passes leaves the registry indexed and consistent. -/
theorem NeverCompiled.consistent_replay (hnever : start.NeverCompiled)
    (hhistory : ∀ operation ∈ history, operation.fills = true ∨ operation.pass?.isSome) :
    (start.replay history).Indexed ∧ (start.replay history).Consistent := by
  refine replay_induction (motive := fun registry => registry.Indexed ∧ registry.Consistent)
    (fun registry hregistry operation hoperation => ?_)
    ⟨hnever.indexed, hnever.grounded.consistent⟩
  obtain ⟨hindexed, hconsistent⟩ := hregistry
  rcases hhistory operation hoperation with hfills | hsome
  · have hgrows := Operation.grows_apply hfills registry
    exact ⟨hgrows.indexed hindexed, hconsistent.grows hgrows⟩
  · obtain ⟨failFast, hpass⟩ := Option.isSome_iff_exists.mp hsome
    rw [Operation.apply_of_pass? hpass]
    exact ⟨hindexed.of_forget (forget_lastRun registry failFast), hconsistent.lastRun failFast⟩

/-- **When recorded bases never loop.** No state of a history has a loop of recorded bases exactly
if no pass of the history begins in a state in which it closes one. -/
theorem replay_not_loops_iff (hnever : start.NeverCompiled)
    (hhistory : ∀ operation ∈ history, operation.fills = true ∨ operation.pass?.isSome) :
    (∀ done, done <+: history → ∀ id, ¬Loops (start.replay done).recordedBase? id) ↔
      ∀ done operation failFast, done ++ [operation] <+: history →
        operation.pass? = some failFast → ∀ id, ¬(start.replay done).ClosesLoop failFast id := by
  have hreached {done : List Operation} (hdone : done <+: history) :
      (start.replay done).Indexed ∧ (start.replay done).Consistent :=
    hnever.consistent_replay fun operation hoperation =>
      hhistory operation (hdone.subset hoperation)
  constructor
  · intro hnone done operation failFast hdone hpass id hcloses
    obtain ⟨hindexed, hconsistent⟩ := hreached ((List.prefix_append done [operation]).trans hdone)
    refine hnone _ hdone id ?_
    rw [replay_append_singleton, Operation.apply_of_pass? hpass]
    exact (loops_lastRun_iff hindexed hconsistent).mpr hcloses
  · intro hnone done hdone
    -- The state is reached by the last operation from one without a loop.
    induction done using List.reverseRecOn with
    | nil =>
      intro id hloop
      exact hloop.ne_none (hnever.recordedBase?_eq id)
    | append_singleton done operation ih =>
      have hbefore : done <+: history := (List.prefix_append done [operation]).trans hdone
      intro id hloop
      rw [replay_append_singleton] at hloop
      rcases hhistory operation (hdone.subset (by simp)) with hfills | hsome
      · rw [(Operation.grows_apply hfills _).recordedBase?_eq] at hloop
        exact ih hbefore id hloop
      · obtain ⟨failFast, hpass⟩ := Option.isSome_iff_exists.mp hsome
        obtain ⟨hindexed, hconsistent⟩ := hreached hbefore
        rw [Operation.apply_of_pass? hpass, loops_lastRun_iff hindexed hconsistent] at hloop
        exact hnone done operation failFast hdone hpass id hloop

/-- Three types of which each extends another, in a circle, and then the type that an element of
the first names. The pass before its registration records the base of the third type. -/
def loopHistory : List Operation :=
  [.register (.extending "A" "W"
      (some [{ Element.named "part" with typeReference := some "Z" }])),
    .register (.extending "M" "A" none),
    .register (.extending "W" "M" none),
    .resolve false,
    .register (.simple ⟨"Z", .unknown⟩)]

/-- After this history a pass finds no fault and records the other two bases. -/
theorem resolveAll_loopHistory :
    ((empty.replay loopHistory).resolveAll true).faults = [] ∧
      [(⟨0⟩ : TypeId), ⟨1⟩, ⟨2⟩].map
        ((empty.replay loopHistory).resolveAll true).registry.recordedBase? =
          [some ⟨2⟩, some ⟨0⟩, some ⟨1⟩] := by
  decide +kernel

/-- A pass may report success and leave a loop of recorded bases. -/
theorem loopHistory_loops :
    (∀ operation ∈ loopHistory ++ [.resolve true],
      operation.fills = true ∨ operation.pass?.isSome) ∧
      ((empty.replay loopHistory).resolveAll true).faults = [] ∧
      Loops (empty.replay (loopHistory ++ [.resolve true])).recordedBase? ⟨0⟩ := by
  obtain ⟨hfaults, hbases⟩ := resolveAll_loopHistory
  simp only [List.map_cons, List.map_nil, List.cons.injEq] at hbases
  obtain ⟨hfirst, hsecond, hthird, _⟩ := hbases
  refine ⟨by decide, hfaults, ?_⟩
  rw [replay_append_singleton]
  exact .head hfirst (.head hthird (.single hsecond))

/-- The history with this further pass has a state with a loop, and a pass that closes one. -/
theorem replay_not_loops_iff_loopHistory :
    empty.NeverCompiled ∧
      (∀ operation ∈ loopHistory ++ [.resolve true],
        operation.fills = true ∨ operation.pass?.isSome) ∧
      ((∀ done, done <+: loopHistory ++ [.resolve true] →
          ∀ id, ¬Loops (empty.replay done).recordedBase? id) ↔
        ∀ done operation failFast, done ++ [operation] <+: loopHistory ++ [.resolve true] →
          operation.pass? = some failFast →
            ∀ id, ¬(empty.replay done).ClosesLoop failFast id) :=
  ⟨neverCompiled_empty, by decide, replay_not_loops_iff neverCompiled_empty (by decide)⟩

end XsdDerivation.Registry
