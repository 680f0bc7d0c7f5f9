import XsdDerivation.Proofs.Visit

/-!
# What a visit finds

A visit follows the bases that remain to be resolved until it comes to a type that has been
settled before, to a type for which nothing remains, or back to a type in the middle of its
visit. Which fault it finds and which types it settles can therefore be read off the walk along
pending bases, in whatever state the registry was when the run began.
-/

namespace XsdDerivation

namespace Run

/-- Whether the visit of a type has ended. -/
def isSettled (run : Run) (id : TypeId) : Bool := run.isCompleted id || run.hasFailed id

theorem isSettled_iff {run : Run} {id : TypeId} :
    run.isSettled id = true ↔ id ∈ run.completed ∨ id ∈ run.failed := by
  simp [isSettled, isCompleted, hasFailed]

theorem Opens.isSettled_eq {run : Run} {id : TypeId} {declaration : Declaration}
    (hopens : run.Opens id declaration) : run.isSettled id = false := by
  rw [← Bool.not_eq_true, isSettled_iff]
  exact fun h => h.elim hopens.not_completed hopens.not_failed

/-- The types that a visit of `id` settles: the pending walk up to the first type that has been
settled before. -/
def trail (registry : Registry) (run : Run) (id : TypeId) : List TypeId :=
  (registry.pendingWalk run.active id).takeWhile fun other => !run.isSettled other

/-- The fault that a visit of `id` finds: none if the pending walk meets a type that has been
settled before, and else the one at its end. -/
def foundFault? (registry : Registry) (run : Run) (parent : Option Element) (id : TypeId) :
    Option Fault :=
  if (registry.pendingWalk run.active id).any run.isSettled then none
  else registry.pendingFault? parent (registry.pendingEnd run.active id)

/-- A visit finds `fault` and settles the types of `trail`: it resolves all of them if there is
no fault, and else none of them. -/
structure Settles (run after : Run) (trail : List TypeId) (fault : Option Fault) : Prop where
  /-- The types resolved. -/
  completed_eq : after.completed = if fault.isNone then trail ++ run.completed else run.completed
  /-- The types that could not be resolved. -/
  failed_eq : after.failed = if fault.isNone then run.failed else trail ++ run.failed

end Run

section Steps

variable {registry : Registry} {run : Run} {parent : Option Element} {id base : TypeId}

/-- A settled type ends a visit at once. -/
theorem Run.found_of_settled (hover : run.Over registry)
    (hsettled : id ∈ run.completed ∨ id ∈ run.failed) :
    run.foundFault? registry parent id = none ∧ run.trail registry id = [] := by
  have hactive : id ∉ run.active := fun hmem => hover.ne_of_active hmem hsettled rfl
  have hsettled := Run.isSettled_iff.mpr hsettled
  obtain ⟨rest, hrest⟩ : ∃ rest, registry.pendingWalk run.active id = id :: rest := by
    rw [Registry.pendingWalk, path, dif_neg hactive]
    exact ⟨_, rfl⟩
  simp [Run.foundFault?, Run.trail, hrest, hsettled]

/-- A type for which no base remains ends a visit with its own fault or none. -/
theorem Run.found_of_none {declaration : Declaration} {remainder : Remainder}
    (hopens : run.Opens id declaration) (hremainder : registry.remainderOf parent id = remainder)
    (hnone : remainder.base? = none) :
    run.foundFault? registry parent id = remainder.fault? ∧ run.trail registry id = [id] := by
  have hpending : registry.pendingBase? id = none := by
    rw [← registry.base?_remainderOf parent, hremainder, hnone]
  have hwalk : registry.pendingWalk run.active id = [id] := path_of_none hopens.not_active hpending
  have hend : registry.pendingEnd run.active id = .stop id :=
    ending_of_none hopens.not_active hpending
  simp [Run.foundFault?, Run.trail, hwalk, hend, hopens.isSettled_eq, Registry.pendingFault?,
    hremainder]

/-- A pending base is visited next, while the type is in the middle of its visit. -/
theorem Run.found_of_base {declaration : Declaration} (prepared : Declaration)
    (hopens : run.Opens id declaration)
    (hremainder : registry.remainderOf parent id = .base base) :
    run.foundFault? registry parent id =
        (run.enter id prepared).foundFault? registry parent base ∧
      run.trail registry id = id :: (run.enter id prepared).trail registry base := by
  have hpending : registry.pendingBase? id = some base := by
    rw [← registry.base?_remainderOf parent, hremainder]
    rfl
  have hwalk : registry.pendingWalk run.active id =
      id :: registry.pendingWalk (id :: run.active) base :=
    path_of_some hopens.not_active hpending
  have hend : registry.pendingEnd run.active id = registry.pendingEnd (id :: run.active) base :=
    ending_of_some hopens.not_active hpending
  have hsettled : (run.enter id prepared).isSettled = run.isSettled := rfl
  have hinner : (run.enter id prepared).active = id :: run.active := rfl
  simp [Run.foundFault?, Run.trail, hwalk, hend, hopens.isSettled_eq, hsettled, hinner]

/-- The base that remains for a type is registered. -/
theorem Registry.Indexed.get?_base_ne_none (hindexed : registry.Indexed)
    (hremainder : registry.remainderOf parent id = .base base) : registry.get? base ≠ none := by
  have hpending : registry.pendingBase? id = some base := by
    rw [← registry.base?_remainderOf parent, hremainder]
    rfl
  exact hindexed.declaredBase?_registered (Registry.declaredBase?_of_pendingBase? hpending).1

end Steps

namespace Visit

/-- **What a visit finds and settles.** The visit of a registered type finds the fault at the end
of the pending walk, unless the walk meets a type settled before, and settles the types of the
walk up to there. -/
theorem outcome {registry : Registry} {parent : Option Element} {run after : Run} {id : TypeId}
    {fault : Option Fault} (hvisit : Visit parent run id after fault)
    (hindexed : registry.Indexed) (hover : run.Over registry) (hget : registry.get? id ≠ none) :
    fault = run.foundFault? registry parent id ∧
      run.Settles after (run.trail registry id) fault := by
  induction hvisit with
  | settled hsettled =>
    obtain ⟨hfault, htrail⟩ := Run.found_of_settled hover hsettled
    exact ⟨hfault.symm, by simp [htrail], by simp⟩
  | missing hnone => exact absurd hnone (hover.get?_ne_none hget)
  | @circular run id declaration hcompleted hfailed hactive hfound =>
    have hwalk : registry.pendingWalk run.active id = [] := path_of_mem hactive
    have hend : registry.pendingEnd run.active id = .loop id := ending_of_mem hactive
    have hname : registry.declaredName id = declaration.name := by
      rw [← Registry.declaredName_eq_of_forget hover.forget_eq, Registry.declaredName, hfound]
      rfl
    refine ⟨?_, ?_, ?_⟩ <;>
      simp [Run.foundFault?, Run.trail, hwalk, hend, Registry.pendingFault?, hname]
  | plain hopens hprepare =>
    obtain ⟨hfault, htrail⟩ :=
      Run.found_of_none hopens (hover.remainderOf_eq hopens hprepare) rfl
    exact ⟨hfault.symm, by simp [htrail, Run.complete, Run.enter], rfl⟩
  | faulty hopens hprepare =>
    obtain ⟨hfault, htrail⟩ :=
      Run.found_of_none hopens (hover.remainderOf_eq hopens hprepare) rfl
    exact ⟨hfault.symm, rfl, by simp [htrail, Run.fail, Run.enter]⟩
  | @stuck run after id base declaration prepared fault hopens hprepare hbase ih =>
    have hremainder := hover.remainderOf_eq hopens hprepare
    obtain ⟨hfault, htrail⟩ := Run.found_of_base prepared hopens hremainder
    obtain ⟨hinner, hcompleted, hfailed⟩ :=
      ih (hover.enter hopens (Run.Opens.forget_prepared hprepare))
        (hindexed.get?_base_ne_none hremainder)
    refine ⟨hinner.trans hfault.symm, hcompleted, ?_⟩
    simp [htrail, Run.fail, hfailed, Run.enter]
  | @derived run after id base declaration prepared hopens hprepare hbase ih =>
    have hremainder := hover.remainderOf_eq hopens hprepare
    obtain ⟨hfault, htrail⟩ := Run.found_of_base prepared hopens hremainder
    obtain ⟨hinner, hcompleted, hfailed⟩ :=
      ih (hover.enter hopens (Run.Opens.forget_prepared hprepare))
        (hindexed.get?_base_ne_none hremainder)
    refine ⟨hinner.trans hfault.symm, ?_, by simp [Run.complete, hfailed, Run.enter]⟩
    simp [htrail, Run.complete, hcompleted, Run.enter]

end Visit

end XsdDerivation
