import Mathlib.Data.List.Induction
import XsdDerivation.Proofs.History
import XsdDerivation.Proofs.Report
import XsdDerivation.Proofs.RunInvariant
import XsdDerivation.Proofs.Unchanged

/-!
# Passes over an unchanged registry

A pass leaves some types unresolved, and the next one walks other paths than the first did. It
finds the same faults all the same: a type from which the walk ends with a fault and meets the walk
of no type before it keeps the whole walk unrecorded, so that every pass finds the fault again. A
pass that visits all types leaves nothing for a later one to record.
-/

namespace XsdDerivation

/-! ### Visiting the first types -/

namespace Run

/-- A pass that stops at the first fault reports that one alone. -/
theorem snd_visitAll_true (run : Run) (ids : List TypeId) :
    (run.visitAll true ids).2 = (run.visitAll false ids).2.take 1 := by
  induction ids generalizing run with
  | nil => rfl
  | cons id ids ih =>
    rw [visitAll, visitAll]
    rcases run.visit none id with ⟨after, _ | fault⟩
    · exact ih after
    · rfl

/-- A run over a list of types visits some of the first, and all unless it stops early. -/
theorem exists_visitAll_eq (run : Run) (failFast : Bool) (ids : List TypeId) :
    ∃ visited, visited <+: ids ∧ (failFast = false → visited = ids) ∧
      (run.visitAll failFast ids).1 = run.visitEach (visited.map fun id => (none, id)) := by
  cases failFast with
  | false => exact ⟨ids, List.prefix_refl ids, fun _ => rfl, visitAll_false ids⟩
  | true =>
    induction ids generalizing run with
    | nil => exact ⟨[], List.prefix_refl [], fun _ => rfl, rfl⟩
    | cons id ids ih =>
      cases hfault : (run.visit none id).2 with
      | none =>
        obtain ⟨visited, hfront, _, hrun⟩ := ih (run.visit none id).1
        rw [visitAll_cons_of_none hfault, hrun]
        exact ⟨id :: visited, List.cons_prefix_cons.mpr ⟨rfl, hfront⟩, by simp, rfl⟩
      | some fault =>
        rw [visitAll_true_cons_of_some hfault]
        exact ⟨[id], List.cons_prefix_cons.mpr ⟨rfl, List.nil_prefix⟩, by simp, rfl⟩

end Run

namespace Registry

variable {registry other : Registry} {before visited ids : List TypeId} {id first : TypeId}

/-- The run that has visited the types of a list, whatever it found. -/
def runOver (registry : Registry) (visited : List TypeId) : Run :=
  (Run.start registry).visitEach (visited.map fun id => (none, id))

theorem runOver_append_singleton (visited : List TypeId) (id : TypeId) :
    registry.runOver (visited ++ [id]) = ((registry.runOver visited).visit none id).1 := by
  rw [runOver, List.map_append, Run.visitEach_append]
  rfl

/-- The last run of a pass has visited the first types, and all unless it stopped early. -/
theorem exists_lastRun_eq (registry : Registry) (failFast : Bool) :
    ∃ visited, visited <+: registry.ids ∧ (failFast = false → visited = registry.ids) ∧
      registry.lastRun failFast = registry.runOver visited :=
  (Run.start registry).exists_visitAll_eq failFast registry.ids

/-- The types settled so far are those that pending bases reach from the types visited. -/
theorem Indexed.resting_runOver (hindexed : registry.Indexed) (hfront : visited <+: registry.ids) :
    (registry.runOver visited).Resting registry ∧
      ∀ id, (registry.runOver visited).isSettled id = true ↔
        ∃ earlier ∈ visited, Reaches registry.pendingBase? earlier id := by
  have hcalls : ∀ call ∈ visited.map fun id => ((none : Option Element), id),
      registry.get? call.2 ≠ none := by
    intro call hcall
    obtain ⟨earlier, hearlier, rfl⟩ := List.mem_map.mp hcall
    exact mem_ids_iff.mp (hfront.subset hearlier)
  obtain ⟨hrest, hsettled⟩ := Run.resting_start.visitEach hindexed hcalls
  refine ⟨hrest, fun id => (hsettled id).trans ?_⟩
  have hstart : (Run.start registry).isSettled id = false := rfl
  simp [hstart]

/-- A pass records bases that it has resolved before. -/
theorem Indexed.completed_lastRun (hindexed : registry.Indexed) {failFast : Bool} {base : TypeId}
    (hrecorded : (registry.lastRun failFast).registry.recordedBase? id = some base) :
    registry.recordedBase? id = some base ∨ base ∈ (registry.lastRun failFast).completed := by
  obtain ⟨visited, _, _, hrun⟩ := registry.exists_lastRun_eq failFast
  rw [hrun] at hrecorded ⊢
  have hstart : (Run.start registry).registry.Indexed := hindexed
  exact (Run.completed_of_visitEach hstart).2 id base hrecorded

/-- A full pass settles all types. -/
theorem Indexed.isSettled_lastRun (hindexed : registry.Indexed) (hget : registry.get? id ≠ none) :
    (registry.lastRun false).isSettled id = true := by
  obtain ⟨visited, hfront, hall, hrun⟩ := registry.exists_lastRun_eq false
  rw [hrun, (hindexed.resting_runOver hfront).2, hall rfl]
  exact ⟨id, mem_ids_iff.mpr hget, .refl⟩

/-- A full pass prepares all types. -/
theorem Indexed.isPrepared_lastRun (hindexed : registry.Indexed) (id : TypeId) :
    (registry.lastRun false).registry.IsPrepared id := by
  have hprepares : (registry.lastRun false).Prepares :=
    Run.visitAll_induction (fun run hprepares id _ => (run.visit_spec none id).prepares hprepares)
      (Run.prepares_start registry)
  intro declaration hget
  refine hprepares id (.inr (Run.isSettled_iff.mp (hindexed.isSettled_lastRun ?_))) declaration hget
  rw [get?_ne_none_iff, ← size_eq_of_forget (forget_lastRun registry false)]
  exact lt_size_of_get? hget

/-! ### Which faults are found -/

/-- The fault found at a type after the types of `before` have been visited: the one at the end of
its walk, unless the walk of one of them ends alike. -/
def newFault? (registry : Registry) (before : List TypeId) (id : TypeId) : Option Fault :=
  if before.any fun earlier => registry.sameEnd (registry.walkEnd earlier) (registry.walkEnd id)
  then none
  else registry.walkFault? none id

/-- The faults found at the types of a list in order after those of `before` have been visited. -/
def newFaults (registry : Registry) (before : List TypeId) : List TypeId → List Fault
  | [] => []
  | id :: ids => (registry.newFault? before id).toList ++ registry.newFaults (before ++ [id]) ids

/-- The type is on the walk of a type of the list at which a fault is found. -/
def Stuck (registry : Registry) (ids : List TypeId) (id : TypeId) : Prop :=
  ∃ before first, before ++ [first] <+: ids ∧ registry.newFault? before first ≠ none ∧
    Reaches registry.nextBase? first id

/-- The registry records no base for a type on a walk at which a pass finds a fault. -/
structure Repeatable (registry : Registry) : Prop where
  /-- Every registered name stands for a registered type. -/
  indexed : registry.Indexed
  /-- Nothing is recorded that the references do not name. -/
  consistent : registry.Consistent
  /-- Where a fault is found nothing is recorded. -/
  unrecorded : ∀ id, registry.Stuck registry.ids id → registry.recordedBase? id = none

section SameDeclarations

variable (hsame : registry.forget = other.forget)

include hsame

theorem ids_eq_of_forget : registry.ids = other.ids := by
  rw [ids, ids, size_eq_of_forget hsame]

theorem newFault?_eq_of_forget : registry.newFault? = other.newFault? := by
  have halike (earlier id : TypeId) :
      registry.sameEnd (registry.walkEnd earlier) (registry.walkEnd id) =
        other.sameEnd (other.walkEnd earlier) (other.walkEnd id) := by
    rw [Bool.eq_iff_iff, sameEnd_walkEnd_iff, sameEnd_walkEnd_iff, nextBase?_eq_of_forget hsame]
  funext before id
  simp only [newFault?, halike, walkFault?_eq_of_forget hsame]

theorem newFaults_eq_of_forget (before ids : List TypeId) :
    registry.newFaults before ids = other.newFaults before ids := by
  induction ids generalizing before with
  | nil => rfl
  | cons id ids ih => rw [newFaults, newFaults, newFault?_eq_of_forget hsame, ih]

theorem stuck_iff_of_forget : registry.Stuck ids id ↔ other.Stuck ids id := by
  rw [Stuck, Stuck, newFault?_eq_of_forget hsame, nextBase?_eq_of_forget hsame]

end SameDeclarations

/-- A walk of the list ends like that of the type exactly if the walks meet. -/
theorem any_sameEnd_iff :
    (before.any fun earlier =>
        registry.sameEnd (registry.walkEnd earlier) (registry.walkEnd id)) = true ↔
      ∃ earlier ∈ before, Meets registry.nextBase? earlier id := by
  simp only [List.any_eq_true, sameEnd_walkEnd_iff]

/-- The fault found at a type of which the walk meets no earlier one is that at the end. -/
theorem newFault?_of_apart (hapart : ∀ earlier ∈ before, ¬Meets registry.nextBase? earlier id) :
    registry.newFault? before id = registry.walkFault? none id := by
  refine if_neg fun hany => ?_
  obtain ⟨earlier, hearlier, hmeets⟩ := any_sameEnd_iff.mp hany
  exact hapart earlier hearlier hmeets

/-- No fault is found at a type of which the walk meets an earlier one. -/
theorem newFault?_of_meets {earlier : TypeId} (hearlier : earlier ∈ before)
    (hmeets : Meets registry.nextBase? earlier id) : registry.newFault? before id = none :=
  if_pos (any_sameEnd_iff.mpr ⟨earlier, hearlier, hmeets⟩)

/-- A fault is found at a type exactly if its walk ends with one and meets no earlier walk. -/
theorem newFault?_ne_none_iff :
    registry.newFault? before id ≠ none ↔ registry.walkFault? none id ≠ none ∧
      ∀ earlier ∈ before, ¬Meets registry.nextBase? earlier id := by
  constructor
  · intro hne
    have hapart : ∀ earlier ∈ before, ¬Meets registry.nextBase? earlier id :=
      fun earlier hearlier hmeets => hne (newFault?_of_meets hearlier hmeets)
    exact ⟨newFault?_of_apart hapart ▸ hne, hapart⟩
  · rintro ⟨hne, hapart⟩
    rwa [newFault?_of_apart hapart]

theorem not_stuck_nil : ¬registry.Stuck [] id := by
  rintro ⟨before, first, hfront, _⟩
  simp at hfront

/-- One more visit may find one more fault. -/
theorem stuck_append_singleton_iff {next : TypeId} :
    registry.Stuck (visited ++ [next]) id ↔ registry.Stuck visited id ∨
      registry.newFault? visited next ≠ none ∧ Reaches registry.nextBase? next id := by
  constructor
  · rintro ⟨before, first, hfront, hfound, hreach⟩
    rcases List.prefix_concat_iff.mp hfront with heq | hfront
    · obtain ⟨rfl, hlast⟩ := List.append_inj' heq rfl
      obtain rfl := List.singleton_inj.mp hlast
      exact .inr ⟨hfound, hreach⟩
    · exact .inl ⟨before, first, hfront, hfound, hreach⟩
  · rintro (⟨before, first, hfront, hfound, hreach⟩ | ⟨hfound, hreach⟩)
    · exact ⟨before, first, hfront.trans (List.prefix_append ..), hfound, hreach⟩
    · exact ⟨visited, next, List.prefix_refl _, hfound, hreach⟩

/-- Walks that meet both end with a fault or both without. -/
theorem walkFault?_eq_none_iff_of_meets (hmeets : Meets registry.nextBase? first id) :
    registry.walkFault? none first = none ↔ registry.walkFault? none id = none := by
  have halike := sameEnd_walkEnd_iff.mpr hmeets
  unfold walkFault?
  cases hend : registry.walkEnd first <;> cases hend' : registry.walkEnd id <;>
    simp_all [sameEnd, endFault?]

/-- If walks of a list meet that of a type, one of them is the first to do so, and it meets none
before it. -/
theorem exists_first_meeting {earlier : TypeId} (hearlier : earlier ∈ before)
    (hmeets : Meets registry.nextBase? earlier id) :
    ∃ init first, init ++ [first] <+: before ∧ Meets registry.nextBase? first id ∧
      ∀ other ∈ init, ¬Meets registry.nextBase? other first := by
  have hsome : (before.find? fun earlier =>
      registry.sameEnd (registry.walkEnd earlier) (registry.walkEnd id)).isSome := by
    rw [List.find?_isSome]
    exact ⟨earlier, hearlier, sameEnd_walkEnd_iff.mpr hmeets⟩
  obtain ⟨first, hfind⟩ := Option.isSome_iff_exists.mp hsome
  obtain ⟨halike, init, rest, hsplit, hinit⟩ := List.find?_eq_some_iff_append.mp hfind
  have hfirst := sameEnd_walkEnd_iff.mp halike
  refine ⟨init, first, ⟨rest, by rw [hsplit, List.append_assoc]; rfl⟩, hfirst,
    fun other hother hmeets => ?_⟩
  have hdiffer := hinit other hother
  rw [Bool.not_eq_true', ← Bool.not_eq_true, sameEnd_walkEnd_iff] at hdiffer
  exact hdiffer (hmeets.trans hfirst)

/-! ### Walks past recorded bases -/

/-- As long as no base is recorded the pending walk goes on where the declared one does. -/
theorem Consistent.reaches_pendingBase? (hconsistent : registry.Consistent)
    (hnone : ∀ passed, Reaches registry.pendingBase? id passed →
      registry.recordedBase? passed = none)
    {last : TypeId} (hreach : Reaches registry.nextBase? id last) :
    Reaches registry.pendingBase? id last := by
  induction hreach with
  | refl => exact .refl
  | @tail passed next _ hnext ih =>
    refine ih.tail ?_
    rw [Leads, hconsistent.pendingBase?_eq, hnone passed ih]
    exact hnext

/-- A walk with a fault ahead passes no type with a recorded base. -/
theorem Consistent.recordedBase?_of_faultAhead? (hconsistent : registry.Consistent)
    (hahead : registry.faultAhead? none id ≠ none) {passed : TypeId}
    (hreach : Reaches registry.pendingBase? id passed) : registry.recordedBase? passed = none := by
  cases hrecorded : registry.recordedBase? passed with
  | none => rfl
  | some base =>
    have hstop : registry.pendingBase? passed = none := by
      rw [hconsistent.pendingBase?_eq, hrecorded]
      rfl
    have hend : registry.pendingEnd [] passed = .stop passed :=
      ending_eq_stop_iff.mpr ⟨.refl, hstop⟩
    have hnone : registry.faultAhead? none passed = none := by
      rw [faultAhead?, hend, pendingFault?, hconsistent.fault?_remainderOf]
      exact (hconsistent.of_recordedBase? hrecorded).1
    exact absurd ((faultAhead?_eq_none_iff_of_reaches hreach).mpr hnone) hahead

namespace Repeatable

variable (hrepeat : registry.Repeatable)

include hrepeat

/-- The walk from a type at which a fault is found is pending as a whole. -/
theorem reaches_pendingBase? (hfront : before ++ [first] <+: registry.ids)
    (hfound : registry.newFault? before first ≠ none)
    (hreach : Reaches registry.nextBase? first id) : Reaches registry.pendingBase? first id := by
  refine hrepeat.consistent.reaches_pendingBase? (fun passed hpassed => ?_) hreach
  exact hrepeat.unrecorded passed
    ⟨before, first, hfront, hfound, hrepeat.consistent.reaches_nextBase? hpassed⟩

/-- Where there is a fault ahead of a type its walk meets an earlier one only if the pending walks
meet. -/
theorem pending_meets {earlier : TypeId} (hfront : before <+: registry.ids)
    (hahead : registry.faultAhead? none id ≠ none) (hearlier : earlier ∈ before)
    (hmeets : Meets registry.nextBase? earlier id) :
    ∃ other ∈ before, Meets registry.pendingBase? other id := by
  have hunrecorded (passed : TypeId) (hpassed : Reaches registry.pendingBase? id passed) :=
    hrepeat.consistent.recordedBase?_of_faultAhead? hahead hpassed
  have hwalk : registry.walkFault? none id ≠ none := by
    rwa [← hrepeat.consistent.faultAhead?_eq none fun passed hpassed hrecorded =>
      absurd (hunrecorded passed hpassed) hrecorded]
  obtain ⟨init, first, hinit, hfirst, hapart⟩ := exists_first_meeting hearlier hmeets
  have hfound : registry.newFault? init first ≠ none :=
    newFault?_ne_none_iff.mpr
      ⟨fun hnone => hwalk ((walkFault?_eq_none_iff_of_meets hfirst).mp hnone), hapart⟩
  obtain ⟨met, hreach, hreach'⟩ := hfirst
  exact ⟨first, hinit.subset (by simp), met,
    hrepeat.reaches_pendingBase? (hinit.trans hfront) hfound hreach,
    hrepeat.consistent.reaches_pendingBase? hunrecorded hreach'⟩

/-- The fault ahead of a type of which the walk meets no earlier one is that at the end. -/
theorem faultAhead?_eq (hfront : before ++ [id] <+: registry.ids)
    (hapart : ∀ earlier ∈ before, ¬Meets registry.nextBase? earlier id) :
    registry.faultAhead? none id = registry.walkFault? none id := by
  refine hrepeat.consistent.faultAhead?_eq none fun passed hpassed hrecorded => ?_
  have hreach := hrepeat.consistent.reaches_nextBase? hpassed
  by_contra hne
  have hwalk : registry.walkFault? none id ≠ none := fun hnone =>
    hne ((walkFault?_eq_none_iff_of_meets ⟨passed, hreach, .refl⟩).mp hnone)
  have hfound := newFault?_ne_none_iff.mpr ⟨hwalk, hapart⟩
  exact hrecorded (hrepeat.unrecorded passed ⟨before, id, hfront, hfound, hreach⟩)

/-- **What a visit finds** after those of the types before: the fault at the end of the declared
walk, unless the walk of one of them ends alike. -/
theorem snd_visit (hfront : before ++ [id] <+: registry.ids) :
    ((registry.runOver before).visit none id).2 = registry.newFault? before id := by
  have hbefore : before <+: registry.ids := (List.prefix_append ..).trans hfront
  have hget : registry.get? id ≠ none := mem_ids_iff.mp (hfront.subset (by simp))
  obtain ⟨hrest, hsettled⟩ := hrepeat.indexed.resting_runOver hbefore
  obtain ⟨hfault, _⟩ :=
    ((registry.runOver before).visit_spec none id).rest hrepeat.indexed hrest hget
  rw [hfault]
  by_cases hpending : ∃ earlier ∈ before, Meets registry.pendingBase? earlier id
  · obtain ⟨earlier, hearlier, met, hfirst, hsecond⟩ := hpending
    have hmeets : Meets registry.nextBase? earlier id :=
      ⟨met, hrepeat.consistent.reaches_nextBase? hfirst,
        hrepeat.consistent.reaches_nextBase? hsecond⟩
    rw [newFault?_of_meets hearlier hmeets]
    exact hrest.foundFault?_of_settled hsecond ((hsettled met).mpr ⟨earlier, hearlier, hfirst⟩)
  · have hnew (met : TypeId) (hreach : Reaches registry.pendingBase? id met) :
        (registry.runOver before).isSettled met = false := by
      rw [← Bool.not_eq_true, hsettled]
      exact fun ⟨earlier, hearlier, hfirst⟩ => hpending ⟨earlier, hearlier, met, hfirst, hreach⟩
    rw [hrest.foundFault?_of_new hnew]
    by_cases hdeclared : ∃ earlier ∈ before, Meets registry.nextBase? earlier id
    · obtain ⟨earlier, hearlier, hmeets⟩ := hdeclared
      rw [newFault?_of_meets hearlier hmeets]
      by_contra hahead
      exact hpending (hrepeat.pending_meets hbefore hahead hearlier hmeets)
    · have hapart : ∀ earlier ∈ before, ¬Meets registry.nextBase? earlier id :=
        fun earlier hearlier hmeets => hdeclared ⟨earlier, hearlier, hmeets⟩
      rw [newFault?_of_apart hapart, hrepeat.faultAhead?_eq hfront hapart]

/-- **What a pass reports** is determined by the declared walks. -/
theorem snd_visitAll (hsplit : before ++ ids = registry.ids) :
    ((registry.runOver before).visitAll false ids).2 = registry.newFaults before ids := by
  induction ids generalizing before with
  | nil => rfl
  | cons id ids ih =>
    have hrest : before ++ [id] ++ ids = registry.ids := by rw [← hsplit, List.append_assoc]; rfl
    have hvisit := hrepeat.snd_visit ⟨ids, hrest⟩
    have hafter := ih hrest
    rw [runOver_append_singleton] at hafter
    rw [newFaults, ← hafter, ← hvisit, Run.visitAll]
    rcases (registry.runOver before).visit none id with ⟨after, _ | fault⟩ <;> rfl

/-- **What has failed** after visits of the first types: the types of the walks at which a fault has
been found. -/
theorem mem_failed_iff (hfront : visited <+: registry.ids) :
    id ∈ (registry.runOver visited).failed ↔ registry.Stuck visited id := by
  induction visited using List.reverseRecOn with
  | nil =>
    exact ⟨fun hmem => absurd hmem List.not_mem_nil, fun hstuck => absurd hstuck not_stuck_nil⟩
  | append_singleton visited next ih =>
    have hbefore : visited <+: registry.ids := (List.prefix_append ..).trans hfront
    have hget : registry.get? next ≠ none := mem_ids_iff.mp (hfront.subset (by simp))
    obtain ⟨hrest, _⟩ := hrepeat.indexed.resting_runOver hbefore
    obtain ⟨hfault, hsettles⟩ := ((registry.runOver visited).visit_spec none next).outcome
      hrepeat.indexed hrest.toOver hget
    have hvisit := hrepeat.snd_visit hfront
    rw [runOver_append_singleton, stuck_append_singleton_iff, ← ih hbefore, hsettles.failed_eq]
    cases hnew : registry.newFault? visited next with
    | none => simp [hvisit, hnew]
    | some fault =>
      have hsome : registry.newFault? visited next ≠ none := by
        rw [hnew]
        exact Option.some_ne_none _
      have hfound : (registry.runOver visited).foundFault? registry none next ≠ none := by
        rwa [← hfault, hvisit]
      have htrail : id ∈ (registry.runOver visited).trail registry next ↔
          Reaches registry.nextBase? next id := by
        rw [hrest.mem_trail_iff]
        refine ⟨fun h => hrepeat.consistent.reaches_nextBase? h.1, fun hreach => ?_⟩
        have hpending := hrepeat.reaches_pendingBase? hfront hsome hreach
        exact ⟨hpending, hrest.new_of_foundFault? hfound hpending⟩
      rw [hvisit, hnew, Option.isNone_some, if_neg Bool.false_ne_true, List.mem_append, htrail,
        or_comm]
      simp

/-- A type on a walk at which a fault is found has failed as soon as it is settled. -/
theorem mem_failed_of_isSettled (hfront : visited <+: registry.ids)
    (hstuck : registry.Stuck registry.ids id)
    (hsettled : (registry.runOver visited).isSettled id = true) :
    id ∈ (registry.runOver visited).failed := by
  obtain ⟨before, first, hfirst, hfound, hreach⟩ := hstuck
  obtain ⟨earlier, hearlier, hpending⟩ :=
    ((hrepeat.indexed.resting_runOver hfront).2 id).mp hsettled
  refine (hrepeat.mem_failed_iff hfront).mpr ⟨before, first, ?_, hfound, hreach⟩
  rcases List.prefix_or_prefix_of_prefix hfirst hfront with h | h
  · exact h
  · rcases List.prefix_concat_iff.mp h with h | h
    · exact h ▸ List.prefix_refl _
    · -- The type is settled by a visit before that of `first`, of which the walk meets no earlier.
      have hmeets : Meets registry.nextBase? earlier first :=
        ⟨id, hrepeat.consistent.reaches_nextBase? hpending, hreach⟩
      exact absurd hmeets ((newFault?_ne_none_iff.mp hfound).2 earlier (h.subset hearlier))

/-- A pass resolves no type on a walk at which a fault is found. -/
theorem not_completed {failFast : Bool} (hstuck : registry.Stuck registry.ids id) :
    id ∉ (registry.lastRun failFast).completed := by
  intro hcompleted
  refine hrepeat.indexed.resting_lastRun.not_failed hcompleted ?_
  obtain ⟨visited, hfront, _, hrun⟩ := registry.exists_lastRun_eq failFast
  rw [hrun] at hcompleted ⊢
  exact hrepeat.mem_failed_of_isSettled hfront hstuck (Run.isSettled_iff.mpr (.inl hcompleted))

/-- A pass over a repeatable registry leaves it repeatable. -/
theorem lastRun (failFast : Bool) : (registry.lastRun failFast).registry.Repeatable := by
  have hsame := registry.forget_lastRun failFast
  refine ⟨hrepeat.indexed.of_forget hsame, hrepeat.consistent.lastRun failFast, fun id hstuck => ?_⟩
  rw [ids_eq_of_forget hsame, stuck_iff_of_forget hsame] at hstuck
  by_contra hrecorded
  exact hrepeat.not_completed hstuck
    (hrepeat.consistent.mem_completed hrepeat.indexed (hrepeat.unrecorded id hstuck) hrecorded)

/-- What fails in a full pass is on a walk at which a fault is found. -/
theorem stuck_of_failed (hfailed : id ∈ (registry.lastRun false).failed) :
    registry.Stuck registry.ids id := by
  obtain ⟨visited, hfront, hall, hrun⟩ := registry.exists_lastRun_eq false
  rw [hrun, hrepeat.mem_failed_iff hfront, hall rfl] at hfailed
  exact hfailed

/-- A pass over what a full pass has left records no base. -/
theorem recordedBase?_lastRun_lastRun (failFast : Bool) (id base : TypeId)
    (hrecorded : ((registry.lastRun false).registry.lastRun failFast).registry.recordedBase? id =
      some base) : (registry.lastRun false).registry.recordedBase? id = some base := by
  have hsame := registry.forget_lastRun false
  have hfirst := hrepeat.lastRun false
  have hsecond := hfirst.lastRun failFast
  have hforget := (registry.lastRun false).registry.forget_lastRun failFast
  have hdeclared : registry.declaredBase? id = some base := by
    rw [← declaredBase?_eq_of_forget (hforget.trans hsame)]
    exact (hsecond.consistent.of_recordedBase? hrecorded).2
  have hsettled := hrepeat.indexed.isSettled_lastRun
    (get?_ne_none_iff.mpr (lt_size_of_declaredBase? id base hdeclared))
  rcases Run.isSettled_iff.mp hsettled with hcompleted | hfailed
  · rcases hrepeat.consistent.sound_lastRun.completed id hcompleted with
      hresolved | ⟨other, hfailed, hother, hunrecorded⟩
    · rw [recordedBase?, hresolved, ← get?_resolved, ← recordedBase?, recordedBase?_resolved,
        hdeclared]
    · -- The base failed in the full pass, so that no pass resolves it.
      obtain rfl := Option.some.inj (hdeclared.symm.trans hother)
      have hstuck := hrepeat.stuck_of_failed hfailed
      rw [← stuck_iff_of_forget hsame, ← ids_eq_of_forget hsame] at hstuck
      have hnot : base ∉ ((registry.lastRun false).registry.lastRun failFast).completed :=
        hfirst.not_completed hstuck
      exact (hfirst.indexed.completed_lastRun hrecorded).resolve_right hnot
  · have hstuck := hrepeat.stuck_of_failed hfailed
    rw [← stuck_iff_of_forget (hforget.trans hsame),
      ← ids_eq_of_forget (hforget.trans hsame)] at hstuck
    rw [hsecond.unrecorded id hstuck] at hrecorded
    cases hrecorded

/-- A pass over what a full pass has left changes nothing. -/
theorem registry_lastRun_lastRun (failFast : Bool) :
    ((registry.lastRun false).registry.lastRun failFast).registry =
      (registry.lastRun false).registry := by
  have hrecords := hrepeat.recordedBase?_lastRun_lastRun failFast
  obtain ⟨visited, _, _, hrun⟩ := (registry.lastRun false).registry.exists_lastRun_eq failFast
  rw [hrun] at hrecords ⊢
  exact Run.registry_visitEach_eq (fun id => hrepeat.indexed.isPrepared_lastRun id) hrecords

/-- What a pass reports does not depend on what passes before it have recorded. -/
theorem faults_eq (failFast : Bool) :
    (registry.resolveAll failFast).faults =
      if failFast then (registry.newFaults [] registry.ids).take 1
      else registry.newFaults [] registry.ids := by
  have hall : ((registry.runOver []).visitAll false registry.ids).2 =
      registry.newFaults [] registry.ids := hrepeat.snd_visitAll rfl
  have hstart : registry.runOver [] = Run.start registry := rfl
  rw [hstart] at hall
  rw [faults_resolveAll]
  cases failFast with
  | false => exact hall
  | true => rw [Run.snd_visitAll_true, hall, if_pos rfl]

end Repeatable

/-- A registry that has never been compiled is repeatable. -/
theorem NeverCompiled.repeatable (hnever : registry.NeverCompiled) : registry.Repeatable :=
  ⟨hnever.indexed, hnever.grounded.consistent, fun id _ => hnever.recordedBase?_eq id⟩

/-- Passes keep a registry repeatable and change what is recorded only. -/
theorem Repeatable.replay_passes (hrepeat : registry.Repeatable) (modes : List Bool) :
    (registry.replay (modes.map .resolve)).Repeatable ∧
      (registry.replay (modes.map .resolve)).forget = registry.forget := by
  refine replay_induction (motive := fun after => after.Repeatable ∧ after.forget = registry.forget)
    (fun after ⟨hafter, hsame⟩ operation hmem => ?_) ⟨hrepeat, rfl⟩
  obtain ⟨failFast, _, rfl⟩ := List.mem_map.mp hmem
  exact ⟨hafter.lastRun failFast, (after.forget_lastRun failFast).trans hsame⟩

/-- After a full pass further passes leave the registry as it is. -/
theorem Repeatable.replay_of_full (hrepeat : registry.Repeatable) {modes : List Bool}
    (hfull : false ∈ modes) (failFast : Bool) :
    ((registry.replay (modes.map .resolve)).lastRun failFast).registry =
      registry.replay (modes.map .resolve) := by
  obtain ⟨before, after, rfl⟩ := List.append_of_mem hfull
  have hfixed := (hrepeat.replay_passes before).1.registry_lastRun_lastRun
  have hreplay : registry.replay ((before ++ false :: after).map .resolve) =
      ((registry.replay (before.map .resolve)).lastRun false).registry := by
    rw [List.map_append, List.map_cons, replay, List.foldl_append, List.foldl_cons]
    refine replay_induction (motive := fun later =>
      later = ((registry.replay (before.map .resolve)).lastRun false).registry)
      (fun later hlater operation hmem => ?_) rfl
    obtain ⟨mode, _, rfl⟩ := List.mem_map.mp hmem
    rw [hlater]
    exact hfixed mode
  rw [hreplay, hfixed]

/-- **Repeated passes.** However many passes have been made over a registry that had never been
compiled, one that visits all types reports the faults that it would have reported at first, and one
that stops early reports the first of them. After a pass that visits all types no pass changes what
is recorded. -/
theorem faults_resolveAll_replay (hnever : registry.NeverCompiled) (modes : List Bool) :
    ((registry.replay (modes.map .resolve)).resolveAll false).faults =
        (registry.resolveAll false).faults ∧
      ((registry.replay (modes.map .resolve)).resolveAll true).faults =
        (registry.resolveAll false).faults.take 1 ∧
      (false ∈ modes → ∀ failFast,
        ((registry.replay (modes.map .resolve)).resolveAll failFast).registry =
          registry.replay (modes.map .resolve)) := by
  obtain ⟨hafter, hsame⟩ := hnever.repeatable.replay_passes modes
  have hfaults : (registry.replay (modes.map .resolve)).newFaults []
      (registry.replay (modes.map .resolve)).ids = registry.newFaults [] registry.ids := by
    rw [newFaults_eq_of_forget hsame, ids_eq_of_forget hsame]
  refine ⟨?_, ?_, fun hfull failFast => hnever.repeatable.replay_of_full hfull failFast⟩
  · rw [hafter.faults_eq, hnever.repeatable.faults_eq, hfaults]
  · rw [hafter.faults_eq, hnever.repeatable.faults_eq, hfaults, if_pos rfl,
      if_neg Bool.false_ne_true]

/-- A chain of four types of which the second has an unknown base, and a type that extends
itself. -/
def brokenChain : Registry :=
  empty.replay
    [.register (.extending "Middle" "Top" none), .register (.extending "Top" "Nowhere" none),
      .register (.extending "Low" "Middle" none), .register (.extending "Leaf" "Low" none),
      .register (.extending "Ring" "Ring" none)]

theorem brokenChain_neverCompiled : brokenChain.NeverCompiled :=
  neverCompiled_empty.replay (by decide +kernel)

/-- A full pass over the broken chain reports two faults and leaves a type with a recorded base of
which the base is not resolved. The next pass reports the same and changes nothing. -/
theorem faults_resolveAll_replay_brokenChain :
    brokenChain.NeverCompiled ∧ false ∈ [true, false] ∧
      (brokenChain.resolveAll false).faults =
        [.unknownBase "Nowhere" .unknown, .circularDerivation "Ring"] ∧
      (brokenChain.replay ([true, false].map .resolve)).recordedBase? ⟨2⟩ = none ∧
      (brokenChain.replay ([true, false].map .resolve)).recordedBase? ⟨3⟩ = some ⟨2⟩ ∧
      ((brokenChain.replay ([true, false].map .resolve)).resolveAll false).faults =
        [.unknownBase "Nowhere" .unknown, .circularDerivation "Ring"] ∧
      ((brokenChain.replay ([true, false].map .resolve)).resolveAll false).registry =
        brokenChain.replay ([true, false].map .resolve) := by
  obtain ⟨hfaults, _, hregistry⟩ :=
    faults_resolveAll_replay brokenChain_neverCompiled [true, false]
  have hfirst : (brokenChain.resolveAll false).faults =
      [.unknownBase "Nowhere" .unknown, .circularDerivation "Ring"] := by decide +kernel
  exact ⟨brokenChain_neverCompiled, by decide, hfirst, by decide +kernel, by decide +kernel,
    hfaults.trans hfirst, hregistry (by decide) false⟩

end Registry

end XsdDerivation
