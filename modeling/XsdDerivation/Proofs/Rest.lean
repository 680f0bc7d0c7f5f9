import Mathlib.Data.List.TakeWhile
import Mathlib.Logic.Basic
import XsdDerivation.Proofs.Outcome

/-!
# Runs between visits

Between two visits no type is in the middle of its visit. The types settled so far are closed
under pending bases, and a walk from one of them that ends with a fault ends at types that
failed in this run. A visit keeps this, whatever the registry had recorded before the run, so
that the fault it finds depends on the walk and on the settled types alone.
-/

namespace XsdDerivation

namespace Registry

variable {registry : Registry} {parent : Option Element} {id other last : TypeId}

/-- Walks that reach the type end with a fault: it has one of its own, or pending bases lead from
it back to it. -/
def IsDefective (registry : Registry) (id : TypeId) : Prop :=
  (registry.remainderOf none id).fault? ≠ none ∨ Loops registry.pendingBase? id

/-- The fault at the end of the pending walk from a type. -/
def faultAhead? (registry : Registry) (parent : Option Element) (id : TypeId) : Option Fault :=
  registry.pendingFault? parent (registry.pendingEnd [] id)

/-- The types on the pending walk are those that pending bases reach. -/
theorem mem_pendingWalk_iff :
    other ∈ registry.pendingWalk [] id ↔ Reaches registry.pendingBase? id other :=
  mem_path_iff

/-- There is a fault ahead exactly if a defective type is reached. -/
theorem faultAhead?_ne_none_iff :
    registry.faultAhead? parent id ≠ none ↔
      ∃ last, Reaches registry.pendingBase? id last ∧ registry.IsDefective last := by
  constructor
  · intro hfault
    unfold faultAhead? at hfault
    cases hend : registry.pendingEnd [] id with
    | stop last =>
      rw [hend, pendingFault?, Ne, fault?_remainderOf_eq_none_iff] at hfault
      exact ⟨last, (reaches_of_ending_stop hend).1, .inl hfault⟩
    | loop entry =>
      obtain ⟨hreach, hloop⟩ := loops_of_ending_loop hend
      exact ⟨entry, hreach, .inr hloop⟩
  · rintro ⟨last, hreach, hfault | hloop⟩
    · have hend : registry.pendingEnd [] id = .stop last :=
        ending_eq_stop_iff.mpr ⟨hreach, pendingBase?_of_fault hfault⟩
      rw [faultAhead?, hend, pendingFault?, Ne, fault?_remainderOf_eq_none_iff]
      exact hfault
    · obtain ⟨entry, hend, _⟩ : ∃ entry, registry.pendingEnd [] id = .loop entry ∧
          Reaches registry.pendingBase? last entry := exists_ending_eq_loop hreach hloop
      rw [faultAhead?, hend]
      exact Option.some_ne_none _

/-- Every type that a walk to a defective type passes leads there. -/
theorem IsDefective.reaches (hdefect : registry.IsDefective last)
    (hlast : Reaches registry.pendingBase? id last)
    (hother : Reaches registry.pendingBase? id other) :
    Reaches registry.pendingBase? other last := by
  rcases hother.total hlast with h | h
  · exact h
  · rcases hdefect with hfault | hloop
    · rw [h.eq_of_stop (pendingBase?_of_fault hfault)]
      exact .refl
    · exact hloop.reaches_back h

/-- A type has a fault ahead exactly if the types that it reaches have one. -/
theorem faultAhead?_eq_none_iff_of_reaches {parent' : Option Element}
    (hreach : Reaches registry.pendingBase? id other) :
    registry.faultAhead? parent id = none ↔ registry.faultAhead? parent' other = none := by
  rw [← not_iff_not, ← Ne, ← Ne, faultAhead?_ne_none_iff, faultAhead?_ne_none_iff]
  constructor
  · rintro ⟨last, hlast, hdefect⟩
    exact ⟨last, hdefect.reaches hlast hreach, hdefect⟩
  · rintro ⟨last, hlast, hdefect⟩
    exact ⟨last, hreach.trans hlast, hdefect⟩

end Registry

namespace Run

/-- The run is between two visits. -/
structure Resting (registry : Registry) (run : Run) : Prop extends run.Over registry where
  /-- No type is in the middle of its visit. -/
  active_eq : run.active = []
  /-- The base that remained for a settled type has been settled. -/
  closed : ∀ id base, run.isSettled id = true → registry.pendingBase? id = some base →
    run.isSettled base = true
  /-- A defective type to which a settled one leads has failed. -/
  defects : ∀ id last, run.isSettled id = true → Reaches registry.pendingBase? id last →
    registry.IsDefective last → last ∈ run.failed
  /-- A type that failed has a fault ahead. -/
  failed : ∀ id ∈ run.failed, registry.faultAhead? none id ≠ none

variable {registry : Registry} {run after : Run} {parent : Option Element} {id other : TypeId}
  {fault : Option Fault}

theorem resting_start : (start registry).Resting registry :=
  { over_start with
    active_eq := rfl
    closed := by simp [start, isSettled, isCompleted, hasFailed]
    defects := by simp [start, isSettled, isCompleted, hasFailed]
    failed := by simp [start] }

/-- The trail of a visit consists of the types reached that have not been settled. -/
theorem Resting.mem_trail_iff (hrest : run.Resting registry) :
    other ∈ run.trail registry id ↔
      Reaches registry.pendingBase? id other ∧ run.isSettled other = false := by
  rw [trail, hrest.active_eq]
  constructor
  · intro hmem
    refine ⟨Registry.mem_pendingWalk_iff.mp ((List.takeWhile_sublist _).subset hmem), ?_⟩
    simpa using List.mem_takeWhile_imp hmem
  · rintro ⟨hreach, hnew⟩
    -- Each type reached is on the trail or comes after a settled one, and is settled then.
    have hsplit : other ∈ (registry.pendingWalk [] id).takeWhile (fun id => !run.isSettled id) ∨
        run.isSettled other = true := by
      clear hnew
      induction hreach with
      | refl =>
        cases hsettled : run.isSettled id with
        | true => exact .inr rfl
        | false =>
          left
          rw [Registry.pendingWalk, path, dif_neg List.not_mem_nil, List.takeWhile_cons, hsettled]
          exact List.mem_cons_self ..
      | @tail previous next _ hnext ih =>
        rcases ih with hmem | hsettled
        · rcases mem_takeWhile_path_of_step hmem hnext with h | h | h
          · exact .inl h
          · exact absurd h List.not_mem_nil
          · exact .inr (by simpa using h)
        · exact .inr (hrest.closed previous next hsettled hnext)
    exact hsplit.resolve_right (by simp [hnew])

/-- If the walk meets a settled type a visit finds no fault. -/
theorem Resting.foundFault?_of_settled (hrest : run.Resting registry)
    (hreach : Reaches registry.pendingBase? id other) (hsettled : run.isSettled other = true) :
    run.foundFault? registry parent id = none := by
  rw [foundFault?, hrest.active_eq, if_pos]
  exact List.any_eq_true.mpr ⟨other, Registry.mem_pendingWalk_iff.mpr hreach, hsettled⟩

/-- If the walk meets no settled type a visit finds the fault at its end. -/
theorem Resting.foundFault?_of_new (hrest : run.Resting registry)
    (hnew : ∀ other, Reaches registry.pendingBase? id other → run.isSettled other = false) :
    run.foundFault? registry parent id = registry.faultAhead? parent id := by
  rw [foundFault?, hrest.active_eq, if_neg, Registry.faultAhead?]
  rw [List.any_eq_true]
  rintro ⟨other, hmem, hsettled⟩
  simp [hnew other (Registry.mem_pendingWalk_iff.mp hmem)] at hsettled

/-- A visit that finds a fault has met no settled type. -/
theorem Resting.new_of_foundFault? (hrest : run.Resting registry)
    (hfault : run.foundFault? registry parent id ≠ none)
    (hreach : Reaches registry.pendingBase? id other) : run.isSettled other = false := by
  cases hsettled : run.isSettled other with
  | false => rfl
  | true => exact absurd (hrest.foundFault?_of_settled hreach hsettled) hfault

/-- What was settled stays so, and the types of the trail are settled, too. -/
theorem Settles.isSettled_iff {trail : List TypeId} (hsettles : run.Settles after trail fault) :
    after.isSettled other = true ↔ other ∈ trail ∨ run.isSettled other = true := by
  rw [Run.isSettled_iff, Run.isSettled_iff, hsettles.completed_eq, hsettles.failed_eq]
  cases fault <;> simp only [Option.isNone_none, Option.isNone_some, if_true, Bool.false_eq_true,
    if_false, List.mem_append] <;> grind

/-- What failed before a visit has failed after it. -/
theorem Settles.mem_failed {trail : List TypeId} (hsettles : run.Settles after trail fault)
    (hfailed : other ∈ run.failed) : other ∈ after.failed := by
  rw [hsettles.failed_eq]
  split
  · exact hfailed
  · exact List.mem_append_right _ hfailed

end Run

/-- **What a visit between two others does.** It finds the fault ahead, unless the walk meets a
settled type, it settles all types of the walk, and the run comes to rest again. -/
theorem Visit.rest {registry : Registry} {parent : Option Element} {run after : Run} {id : TypeId}
    {fault : Option Fault} (hvisit : Visit parent run id after fault)
    (hindexed : registry.Indexed) (hrest : run.Resting registry) (hget : registry.get? id ≠ none) :
    fault = run.foundFault? registry parent id ∧ after.Resting registry ∧
      ∀ other, after.isSettled other = true ↔
        run.isSettled other = true ∨ Reaches registry.pendingBase? id other := by
  obtain ⟨hfault, hsettles⟩ := hvisit.outcome hindexed hrest.toOver hget
  have hsettled (other : TypeId) : after.isSettled other = true ↔
      run.isSettled other = true ∨ Reaches registry.pendingBase? id other := by
    rw [hsettles.isSettled_iff, hrest.mem_trail_iff]
    cases run.isSettled other <;> simp
  refine ⟨hfault, ?_, hsettled⟩
  refine { hvisit.over hrest.toOver with
    active_eq := hvisit.active_eq.trans hrest.active_eq
    closed := fun other base hother hbase => ?_
    defects := fun other last hother hlast hdefect => ?_
    failed := fun other hother => ?_ }
  · rw [hsettled] at hother ⊢
    rcases hother with hother | hreach
    · exact .inl (hrest.closed other base hother hbase)
    · exact .inr (hreach.tail hbase)
  · rcases (hsettled other).mp hother with hother | hreach
    · exact hsettles.mem_failed (hrest.defects other last hother hlast hdefect)
    · have hlast : Reaches registry.pendingBase? id last := hreach.trans hlast
      by_cases hmet : ∃ met, Reaches registry.pendingBase? id met ∧ run.isSettled met = true
      · -- The settled type that the walk meets leads to the defective one, too.
        obtain ⟨met, hmet, hmetSettled⟩ := hmet
        exact hsettles.mem_failed
          (hrest.defects met last hmetSettled (hdefect.reaches hlast hmet) hdefect)
      · have hnew (met : TypeId) (hmetReach : Reaches registry.pendingBase? id met) :
            run.isSettled met = false := by
          cases hmetSettled : run.isSettled met with
          | false => rfl
          | true => exact absurd ⟨met, hmetReach, hmetSettled⟩ hmet
        have hsome : fault ≠ none := by
          rw [hfault, hrest.foundFault?_of_new hnew, Registry.faultAhead?_ne_none_iff]
          exact ⟨last, hlast, hdefect⟩
        rw [hsettles.failed_eq, if_neg (by simpa using hsome), List.mem_append]
        exact .inl (hrest.mem_trail_iff.mpr ⟨hlast, hnew last hlast⟩)
  · rw [hsettles.failed_eq] at hother
    cases hcases : fault with
    | none =>
      rw [hcases, Option.isNone_none, if_pos rfl] at hother
      exact hrest.failed other hother
    | some cause =>
      rw [hcases, Option.isNone_some, if_neg Bool.false_ne_true, List.mem_append,
        hrest.mem_trail_iff] at hother
      rcases hother with ⟨hreach, _⟩ | hother
      · have hfound : run.foundFault? registry parent id ≠ none := by
          rw [← hfault, hcases]
          exact Option.some_ne_none _
        rw [Ne, ← Registry.faultAhead?_eq_none_iff_of_reaches hreach,
          ← hrest.foundFault?_of_new fun met hmet => hrest.new_of_foundFault? hfound hmet]
        exact hfound
      · exact hrest.failed other hother

end XsdDerivation
