import XsdDerivation.Proofs.Consistent
import XsdDerivation.Proofs.Filling
import XsdDerivation.Proofs.Rest

/-!
# Grounded registries

A registry is grounded if the walk from every type with a recorded base ends without a fault. A
run over a grounded registry may stop at recorded bases and still finds the fault at the end of
the whole walk. In a registry that has never been compiled nothing is recorded at all.
-/

namespace XsdDerivation.Registry

variable {registry : Registry} {id other : TypeId}

/-- What is recorded is what the references name, and a recorded base leads to no fault. -/
structure Grounded (registry : Registry) : Prop where
  /-- Nothing is recorded that the references do not name. -/
  consistent : registry.Consistent
  /-- The walk from a type with a recorded base ends without a fault. -/
  walkFault?_eq : ∀ id, registry.recordedBase? id ≠ none → registry.walkFault? none id = none

/-- A walk without a fault stops at a type without a base. -/
theorem walkEnd_of_walkFault?_eq_none (hnone : registry.walkFault? none id = none) :
    ∃ last, registry.walkEnd id = .stop last ∧ registry.localFault? none last = none := by
  unfold walkFault? at hnone
  cases hend : registry.walkEnd id with
  | stop last =>
    rw [hend] at hnone
    exact ⟨last, rfl, hnone⟩
  | loop entry =>
    rw [hend] at hnone
    cases hnone

/-- In a consistent registry the pending walk runs along the declared one. -/
theorem Consistent.reaches_nextBase? (hconsistent : registry.Consistent)
    (hreach : Reaches registry.pendingBase? id other) : Reaches registry.nextBase? id other :=
  hreach.congr fun _ _ _ hpending => hconsistent.nextBase?_of_pendingBase? hpending

/-- In a consistent registry the fault ahead is the one at the end of the declared walk, although
the pending walk stops at recorded bases, as long as no fault lies beyond them. -/
theorem Consistent.faultAhead?_eq (hconsistent : registry.Consistent) (parent : Option Element)
    (hbeyond : ∀ passed, Reaches registry.pendingBase? id passed →
      registry.recordedBase? passed ≠ none → registry.walkFault? none passed = none) :
    registry.faultAhead? parent id = registry.walkFault? parent id := by
  unfold faultAhead?
  cases hend : registry.pendingEnd [] id with
  | loop entry =>
    have hwalk : registry.walkEnd id = .loop entry :=
      ending_loop_of_extends
        (fun _ _ hpending => hconsistent.nextBase?_of_pendingBase? hpending) hend
    rw [walkFault?, hwalk]
    rfl
  | stop last =>
    obtain ⟨hreach, hstop⟩ := reaches_of_ending_stop hend
    have hlast : Reaches registry.nextBase? id last := hconsistent.reaches_nextBase? hreach
    rw [pendingFault?, hconsistent.fault?_remainderOf]
    rw [hconsistent.pendingBase?_eq] at hstop
    cases hrecorded : registry.recordedBase? last with
    | none =>
      rw [hrecorded, Option.isSome_none, if_neg Bool.false_ne_true] at hstop
      have hwalk : registry.walkEnd id = .stop last := ending_eq_stop_iff.mpr ⟨hlast, hstop⟩
      rw [walkFault?, hwalk]
      rfl
    | some base =>
      -- The declared walk goes on past the recorded base, and ends without a fault there.
      have hlocal : registry.localFault? parent last = none :=
        localFault?_eq_none_iff.mpr (hconsistent.of_recordedBase? hrecorded).1
      obtain ⟨end', hend', hnone⟩ := walkEnd_of_walkFault?_eq_none
        (hbeyond last hreach (by rw [hrecorded]; exact Option.some_ne_none _))
      obtain ⟨hreach', hstop'⟩ := reaches_of_ending_stop hend'
      have hwalk : registry.walkEnd id = .stop end' :=
        ending_eq_stop_iff.mpr ⟨hlast.trans hreach', hstop'⟩
      rw [hlocal, walkFault?, hwalk, endFault?, localFault?_eq_none_iff.mpr hnone]

/-- In a grounded registry the fault ahead is the one at the end of the declared walk. -/
theorem Grounded.faultAhead?_eq (hgrounded : registry.Grounded) (parent : Option Element)
    (id : TypeId) : registry.faultAhead? parent id = registry.walkFault? parent id :=
  hgrounded.consistent.faultAhead?_eq parent fun passed _ => hgrounded.walkFault?_eq passed

/-- The recorded bases of a grounded registry do not loop. -/
theorem Grounded.not_loops (hgrounded : registry.Grounded) (id : TypeId) :
    ¬Loops registry.recordedBase? id := by
  intro hloop
  obtain ⟨last, hend, _⟩ := walkEnd_of_walkFault?_eq_none
    (hgrounded.walkFault?_eq id hloop.ne_none)
  obtain ⟨hreach, hstop⟩ := reaches_of_ending_stop hend
  have hnext : Loops registry.nextBase? id := hloop.congr fun passed base _ hrecorded => by
    obtain ⟨hfault, hdeclared⟩ := hgrounded.consistent.of_recordedBase? hrecorded
    rw [nextBase?, hfault, Option.isSome_none, if_neg Bool.false_ne_true, hdeclared]
  exact hnext.not_stop hreach hstop

/-! ### Registries that have never been compiled -/

namespace NeverCompiled

theorem recordedBase?_eq (hnever : registry.NeverCompiled) (id : TypeId) :
    registry.recordedBase? id = none := by
  rw [recordedBase?]
  cases hget : registry.get? id with
  | none => rfl
  | some declaration =>
    rw [Option.bind_some, ← hnever.unrecorded id declaration hget, Declaration.recordedBase?_forget]

/-- A registry that has never been compiled is grounded. -/
theorem grounded (hnever : registry.NeverCompiled) : registry.Grounded where
  consistent id declaration hget :=
    Declaration.consistent_of_forget (hnever.unrecorded id declaration hget)
  walkFault?_eq id hrecorded := absurd (hnever.recordedBase?_eq id) hrecorded

/-- Every base of a registry that has never been compiled remains to be resolved. -/
theorem pendingBase?_eq (hnever : registry.NeverCompiled) :
    registry.pendingBase? = registry.nextBase? := by
  funext id
  rw [hnever.grounded.consistent.pendingBase?_eq, hnever.recordedBase?_eq, Option.isSome_none,
    if_neg Bool.false_ne_true]

end NeverCompiled

end XsdDerivation.Registry
