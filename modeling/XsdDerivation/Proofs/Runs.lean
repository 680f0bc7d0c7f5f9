import XsdDerivation.Proofs.Rest

/-!
# Runs of several visits

A run visits one type after another, either whatever the visits find or up to the first fault.
The types settled so far are those that pending bases reach from the types visited, and as long
as none of them has failed a visit finds the fault ahead.
-/

namespace XsdDerivation

namespace Run

variable {registry : Registry} {run : Run} {parent : Option Element} {id other : TypeId}

/-- A run that visits types one after another, each with the element that encloses it. -/
def visitEach (run : Run) (calls : List (Option Element × TypeId)) : Run :=
  calls.foldl (fun run call => (run.visit call.1 call.2).1) run

theorem visitEach_cons (call : Option Element × TypeId) (calls : List (Option Element × TypeId)) :
    run.visitEach (call :: calls) = (run.visit call.1 call.2).1.visitEach calls := rfl

theorem visitEach_append (first second : List (Option Element × TypeId)) :
    run.visitEach (first ++ second) = (run.visitEach first).visitEach second :=
  List.foldl_append

/-- What visits keep, a list of visits keeps. -/
theorem visitEach_induction {motive : Run → Prop} {calls : List (Option Element × TypeId)}
    (hstep : ∀ run, motive run → ∀ call ∈ calls, motive (run.visit call.1 call.2).1)
    (hrun : motive run) : motive (run.visitEach calls) := by
  induction calls generalizing run with
  | nil => exact hrun
  | cons call calls ih =>
    rw [visitEach_cons]
    refine ih (fun run hrun other hother => ?_) (hstep run hrun call (List.mem_cons_self ..))
    exact hstep run hrun other (List.mem_cons_of_mem _ hother)

/-- The types settled by a list of visits are those that the visited ones reach. -/
theorem Resting.visitEach {calls : List (Option Element × TypeId)} (hrest : run.Resting registry)
    (hindexed : registry.Indexed) (hget : ∀ call ∈ calls, registry.get? call.2 ≠ none) :
    (run.visitEach calls).Resting registry ∧
      ∀ other, (run.visitEach calls).isSettled other = true ↔
        run.isSettled other = true ∨
          ∃ call ∈ calls, Reaches registry.pendingBase? call.2 other := by
  induction calls generalizing run with
  | nil => exact ⟨hrest, fun other => by simp [Run.visitEach]⟩
  | cons call calls ih =>
    obtain ⟨_, hafter, hsettled⟩ := (run.visit_spec call.1 call.2).rest hindexed hrest
      (hget call (List.mem_cons_self ..))
    obtain ⟨hend, hreached⟩ := ih hafter fun other hother =>
      hget other (List.mem_cons_of_mem _ hother)
    rw [visitEach_cons]
    refine ⟨hend, fun other => ?_⟩
    rw [hreached, hsettled, or_assoc]
    simp

/-- A visit after a list of visits finds the fault ahead, unless the walk of an earlier visit
meets its walk. -/
theorem visit_visitEach {calls : List (Option Element × TypeId)} (hindexed : registry.Indexed)
    (hget : ∀ call ∈ calls, registry.get? call.2 ≠ none) (hid : registry.get? id ≠ none) :
    ((∃ call ∈ calls, ∃ met, Reaches registry.pendingBase? call.2 met ∧
        Reaches registry.pendingBase? id met) →
      (((start registry).visitEach calls).visit parent id).2 = none) ∧
    ((∀ call ∈ calls, ∀ met, Reaches registry.pendingBase? call.2 met →
        ¬Reaches registry.pendingBase? id met) →
      (((start registry).visitEach calls).visit parent id).2 =
        registry.faultAhead? parent id) := by
  obtain ⟨hrest, hsettled⟩ := resting_start.visitEach hindexed hget
  obtain ⟨hfault, _, _⟩ := (((start registry).visitEach calls).visit_spec parent id).rest
    hindexed hrest hid
  rw [hfault]
  constructor
  · rintro ⟨call, hcall, met, hmet, hreach⟩
    exact hrest.foundFault?_of_settled hreach ((hsettled met).mpr (.inr ⟨call, hcall, hmet⟩))
  · intro hapart
    refine hrest.foundFault?_of_new fun met hreach => ?_
    rw [← Bool.not_eq_true, hsettled]
    rintro (hstart | ⟨call, hcall, hmet⟩)
    · cases hstart
    · exact hapart call hcall met hmet hreach

/-! ### Visits before the first failure -/

/-- As long as nothing has failed a settled type has no fault ahead. -/
theorem Resting.faultAhead?_of_settled (hrest : run.Resting registry) (hfailed : run.failed = [])
    (hsettled : run.isSettled id = true) : registry.faultAhead? none id = none := by
  cases hfault : registry.faultAhead? none id with
  | none => rfl
  | some fault =>
    have hsome : registry.faultAhead? none id ≠ none := by
      rw [hfault]
      exact Option.some_ne_none _
    obtain ⟨last, hreach, hdefect⟩ := Registry.faultAhead?_ne_none_iff.mp hsome
    have hmem := hrest.defects id last hsettled hreach hdefect
    rw [hfailed] at hmem
    exact absurd hmem List.not_mem_nil

/-- As long as nothing has failed a visit finds the fault ahead. -/
theorem Resting.foundFault?_of_unfailed (hrest : run.Resting registry)
    (hfailed : run.failed = []) :
    run.foundFault? registry none id = registry.faultAhead? none id := by
  by_cases hmet : ∃ met, Reaches registry.pendingBase? id met ∧ run.isSettled met = true
  · obtain ⟨met, hreach, hsettled⟩ := hmet
    rw [hrest.foundFault?_of_settled hreach hsettled, eq_comm,
      Registry.faultAhead?_eq_none_iff_of_reaches hreach]
    exact hrest.faultAhead?_of_settled hfailed hsettled
  · refine hrest.foundFault?_of_new fun met hreach => ?_
    cases hsettled : run.isSettled met with
    | false => rfl
    | true => exact absurd ⟨met, hreach, hsettled⟩ hmet

/-- While nothing has failed the settled types are the resolved ones. -/
theorem isSettled_iff_of_unfailed (hfailed : run.failed = []) :
    run.isSettled id = true ↔ id ∈ run.completed := by
  rw [isSettled_iff, hfailed]
  simp

/-- What visits keep, a run over a list of types keeps. -/
theorem visitAll_induction {motive : Run → Prop} {failFast : Bool} {ids : List TypeId}
    (hstep : ∀ run, motive run → ∀ id ∈ ids, motive (run.visit none id).1)
    (hrun : motive run) : motive (run.visitAll failFast ids).1 := by
  induction ids generalizing run with
  | nil => exact hrun
  | cons id ids ih =>
    have hfirst := hstep run hrun id (List.mem_cons_self ..)
    have hrest := ih (fun run hrun other hother =>
      hstep run hrun other (List.mem_cons_of_mem _ hother)) hfirst
    rw [visitAll]
    generalize run.visit none id = result at hfirst hrest
    rcases result with ⟨after, _ | fault⟩
    · exact hrest
    · cases failFast with
      | true => exact hfirst
      | false => exact hrest

/-- Unless it stops early, a run over a list of types makes all the visits. -/
theorem visitAll_false (ids : List TypeId) :
    (run.visitAll false ids).1 = run.visitEach (ids.map fun id => (none, id)) := by
  induction ids generalizing run with
  | nil => rfl
  | cons id ids ih =>
    rw [List.map_cons, visitEach_cons, ← ih, visitAll]
    rcases run.visit none id with ⟨after, _ | fault⟩ <;> rfl

/-- A visit without a fault is followed by the visits of the rest. -/
theorem visitAll_cons_of_none {failFast : Bool} {ids : List TypeId}
    (hnone : (run.visit none id).2 = none) :
    run.visitAll failFast (id :: ids) = (run.visit none id).1.visitAll failFast ids := by
  rw [visitAll]
  generalize run.visit none id = result at hnone
  obtain ⟨after, fault⟩ := result
  subst hnone
  rfl

/-- A run that stops early stops at the first fault. -/
theorem visitAll_true_cons_of_some {ids : List TypeId} {fault : Fault}
    (hsome : (run.visit none id).2 = some fault) :
    run.visitAll true (id :: ids) = ((run.visit none id).1, [fault]) := by
  rw [visitAll]
  generalize run.visit none id = result at hsome
  obtain ⟨after, found⟩ := result
  subst hsome
  rfl

/-- A fault of a visit is listed. -/
theorem visitAll_cons_ne_nil {failFast : Bool} {ids : List TypeId} {fault : Fault}
    (hsome : (run.visit none id).2 = some fault) :
    (run.visitAll failFast (id :: ids)).2 ≠ [] := by
  rw [visitAll]
  generalize run.visit none id = result at hsome
  obtain ⟨after, found⟩ := result
  subst hsome
  cases failFast <;> simp

/-- The types of a list before the first one with a fault ahead. -/
def faultless (registry : Registry) (ids : List TypeId) : List TypeId :=
  ids.takeWhile fun id => (registry.faultAhead? none id).isNone

/-- What the visit of a type does while nothing has failed: it finds the fault ahead, and it
resolves the types of the walk if there is none and no type if there is one. -/
structure FirstVisit (registry : Registry) (run : Run) (id : TypeId) (after : Run)
    (fault : Option Fault) : Prop where
  /-- The fault found is the one ahead. -/
  fault_eq : fault = registry.faultAhead? none id
  /-- The run comes to rest again. -/
  resting : after.Resting registry
  /-- Without a fault ahead nothing fails. -/
  failed_eq : registry.faultAhead? none id = none → after.failed = []
  /-- Without a fault ahead all types of the walk are resolved. -/
  completed_iff : registry.faultAhead? none id = none → ∀ other, other ∈ after.completed ↔
    other ∈ run.completed ∨ Reaches registry.pendingBase? id other
  /-- With a fault ahead no type is resolved. -/
  completed_eq : registry.faultAhead? none id ≠ none → after.completed = run.completed

theorem Resting.firstVisit (hrest : run.Resting registry) (hindexed : registry.Indexed)
    (hfailed : run.failed = []) (hget : registry.get? id ≠ none) :
    FirstVisit registry run id (run.visit none id).1 (run.visit none id).2 := by
  have hvisit := run.visit_spec none id
  obtain ⟨hfault, hafter, hsettled⟩ := hvisit.rest hindexed hrest hget
  obtain ⟨_, hcompletedEq, hfailedEq⟩ := hvisit.outcome hindexed hrest.toOver hget
  rw [hrest.foundFault?_of_unfailed hfailed] at hfault
  have hunfailed (hnone : registry.faultAhead? none id = none) :
      (run.visit none id).1.failed = [] := by
    rw [hfailedEq, hfault, hnone, Option.isNone_none, if_pos rfl, hfailed]
  refine ⟨hfault, hafter, hunfailed, fun hnone other => ?_, fun hsome => ?_⟩
  · rw [← isSettled_iff_of_unfailed (hunfailed hnone), hsettled, isSettled_iff_of_unfailed hfailed]
  · rw [hcompletedEq, hfault, if_neg (by simpa using hsome)]

section Lists

variable {failFast : Bool} {ids : List TypeId}

/-- While nothing has failed a run over a list of types finds a fault exactly if one of them has
one ahead, and else resolves all types that they reach. -/
theorem Resting.visitAll_eq_nil_iff (hrest : run.Resting registry) (hindexed : registry.Indexed)
    (hfailed : run.failed = []) (hget : ∀ id ∈ ids, registry.get? id ≠ none) :
    ((run.visitAll failFast ids).2 = [] ↔ ∀ id ∈ ids, registry.faultAhead? none id = none) ∧
      ((run.visitAll failFast ids).2 = [] → (run.visitAll failFast ids).1.failed = [] ∧
        ∀ other, other ∈ (run.visitAll failFast ids).1.completed ↔ other ∈ run.completed ∨
          ∃ id ∈ ids, Reaches registry.pendingBase? id other) := by
  induction ids generalizing run with
  | nil => exact ⟨by simp [visitAll], fun _ => ⟨hfailed, fun other => by simp [visitAll]⟩⟩
  | cons id ids ih =>
    have hvisit := hrest.firstVisit hindexed hfailed (hget id (List.mem_cons_self ..))
    cases hahead : registry.faultAhead? none id with
    | none =>
      obtain ⟨hempty, hdone⟩ := ih hvisit.resting (hvisit.failed_eq hahead) fun other hother =>
        hget other (List.mem_cons_of_mem _ hother)
      rw [visitAll_cons_of_none (hvisit.fault_eq.trans hahead)]
      refine ⟨by rw [hempty]; simp [hahead], fun hnil => ⟨(hdone hnil).1, fun other => ?_⟩⟩
      rw [(hdone hnil).2, hvisit.completed_iff hahead, or_assoc]
      simp
    | some fault =>
      have hne : (run.visitAll failFast (id :: ids)).2 ≠ [] :=
        visitAll_cons_ne_nil (hvisit.fault_eq.trans hahead)
      refine ⟨⟨fun hnil => absurd hnil hne, fun hall => ?_⟩, fun hnil => absurd hnil hne⟩
      have hnone := hall id (List.mem_cons_self ..)
      rw [hahead] at hnone
      cases hnone

/-- While nothing has failed a run that stops early finds the first fault ahead, and the types
that it resolves are those that the types before reach. -/
theorem Resting.visitAll_true (hrest : run.Resting registry) (hindexed : registry.Indexed)
    (hfailed : run.failed = []) (hget : ∀ id ∈ ids, registry.get? id ≠ none) :
    (run.visitAll true ids).2 = (ids.findSome? (registry.faultAhead? none)).toList ∧
      ∀ other, other ∈ (run.visitAll true ids).1.completed ↔ other ∈ run.completed ∨
        ∃ id ∈ faultless registry ids, Reaches registry.pendingBase? id other := by
  induction ids generalizing run with
  | nil => exact ⟨rfl, fun other => by simp [visitAll, faultless]⟩
  | cons id ids ih =>
    have hvisit := hrest.firstVisit hindexed hfailed (hget id (List.mem_cons_self ..))
    rw [List.findSome?_cons, faultless, List.takeWhile_cons]
    cases hahead : registry.faultAhead? none id with
    | none =>
      obtain ⟨hfaults, hdone⟩ := ih hvisit.resting (hvisit.failed_eq hahead) fun other hother =>
        hget other (List.mem_cons_of_mem _ hother)
      rw [visitAll_cons_of_none (hvisit.fault_eq.trans hahead)]
      refine ⟨hfaults, fun other => ?_⟩
      rw [hdone, hvisit.completed_iff hahead, or_assoc]
      simp [faultless]
    | some fault =>
      rw [visitAll_true_cons_of_some (hvisit.fault_eq.trans hahead)]
      refine ⟨rfl, fun other => ?_⟩
      rw [hvisit.completed_eq (by rw [hahead]; exact Option.some_ne_none _)]
      simp

end Lists

end Run

end XsdDerivation
