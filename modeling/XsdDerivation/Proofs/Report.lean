import XsdDerivation.Proofs.Grounded
import XsdDerivation.Proofs.Runs

/-!
# What a run reports

In a registry that has never been compiled the walks from two types meet exactly if they end
alike. A run therefore reports the fault at the end of a walk at the first visit of which the
walk ends there, and at no later one, in whatever order the types are visited.
-/

namespace XsdDerivation

namespace Registry

variable {registry : Registry} {id other : TypeId}

/-- Whether two walks end alike: at the same type, or in the same loop. -/
def sameEnd (registry : Registry) : Ending → Ending → Bool
  | .stop last, .stop last' => last == last'
  | .loop entry, .loop entry' => decide (entry' ∈ registry.walk entry)
  | _, _ => false

/-- Two walks meet exactly if they end alike. -/
theorem sameEnd_walkEnd_iff :
    registry.sameEnd (registry.walkEnd id) (registry.walkEnd other) = true ↔
      Meets registry.nextBase? id other := by
  have hmeets : Meets registry.nextBase? id other ↔
      (∃ last, registry.walkEnd id = .stop last ∧ registry.walkEnd other = .stop last) ∨
        ∃ entry entry', registry.walkEnd id = .loop entry ∧ registry.walkEnd other = .loop entry' ∧
          Reaches registry.nextBase? entry entry' :=
    meets_iff
  rw [hmeets]
  cases registry.walkEnd id with
  | stop last =>
    cases registry.walkEnd other with
    | stop last' => simp [sameEnd, eq_comm (a := last)]
    | loop entry' => simp [sameEnd]
  | loop entry =>
    cases registry.walkEnd other with
    | stop last' => simp [sameEnd]
    | loop entry' =>
      have hmem : entry' ∈ registry.walk entry ↔ Reaches registry.nextBase? entry entry' :=
        mem_path_iff
      simp [sameEnd, hmem]

/-- The type reported for a loop is the first of the walk that is based on itself. -/
theorem walk_of_walkEnd_loop {entry : TypeId} (hend : registry.walkEnd id = .loop entry) :
    Loops registry.nextBase? entry ∧ ∃ lead cycle, registry.walk id = lead ++ entry :: cycle ∧
      ∀ passed ∈ lead, ¬Loops registry.nextBase? passed :=
  ⟨(loops_of_ending_loop hend).2, path_of_ending_loop hend List.not_mem_nil⟩

end Registry

/-- **What a run reports.** After any list of visits the visit of a type finds the fault at the
end of its walk: that of a type with a fault of its own, or that the derivation of the first type
met again is circular. It finds none if the walk of an earlier visit ended alike. -/
theorem Run.visit_reports {registry : Registry} (hnever : registry.NeverCompiled)
    {calls : List (Option Element × TypeId)} (hcalls : ∀ call ∈ calls, registry.get? call.2 ≠ none)
    (parent : Option Element) {id : TypeId} (hid : registry.get? id ≠ none) :
    (((start registry).visitEach calls).visit parent id).2 =
      if calls.any fun call =>
          registry.sameEnd (registry.walkEnd call.2) (registry.walkEnd id) then none
      else registry.walkFault? parent id := by
  obtain ⟨hmet, hapart⟩ := visit_visitEach hnever.indexed hcalls hid
  rw [hnever.pendingBase?_eq] at hmet hapart
  split
  · rename_i halike
    obtain ⟨call, hcall, hsame⟩ := List.any_eq_true.mp halike
    exact hmet ⟨call, hcall, Registry.sameEnd_walkEnd_iff.mp hsame⟩
  · rename_i hdiffer
    rw [← hnever.grounded.faultAhead?_eq]
    refine hapart fun call hcall met hfirst hsecond => hdiffer ?_
    have hsame := Registry.sameEnd_walkEnd_iff.mpr ⟨met, hfirst, hsecond⟩
    exact List.any_eq_true.mpr ⟨call, hcall, hsame⟩

/-- Two types that extend each other, and a third that extends the second. -/
def Registry.loopWithTail : Registry :=
  ((empty.append ⟨"", "A"⟩ (.extending "A" "B" none)).append
    ⟨"", "B"⟩ (.extending "B" "A" none)).append ⟨"", "C"⟩ (.extending "C" "B" none)

theorem Registry.loopWithTail_neverCompiled : loopWithTail.NeverCompiled :=
  ((neverCompiled_empty.grows (grows_append (by decide +kernel) rfl)).grows
    (grows_append (by decide +kernel) rfl)).grows (grows_append (by decide +kernel) rfl)

/-- Whoever comes to a loop first reports it: the third type of this registry names the second,
at which it enters the loop, and nothing is left to be reported for the first. -/
theorem Run.visit_reports_loopWithTail :
    Registry.loopWithTail.NeverCompiled ∧
      ((start .loopWithTail).visit none ⟨2⟩).2 = some (.circularDerivation "B") ∧
      (((start .loopWithTail).visitEach [(none, ⟨2⟩)]).visit none ⟨0⟩).2 = none ∧
      (((start .loopWithTail).visitEach [(none, ⟨2⟩)]).visit none ⟨0⟩).2 =
        if [((none : Option Element), TypeId.mk 2)].any fun call =>
            Registry.loopWithTail.sameEnd (Registry.loopWithTail.walkEnd call.2)
              (Registry.loopWithTail.walkEnd ⟨0⟩) then none
        else Registry.loopWithTail.walkFault? none ⟨0⟩ := by
  refine ⟨Registry.loopWithTail_neverCompiled, by decide +kernel, by decide +kernel, ?_⟩
  refine visit_reports Registry.loopWithTail_neverCompiled (fun call hcall => ?_) none ?_
  · rw [List.mem_singleton.mp hcall]
    exact Option.some_ne_none _
  · exact Option.some_ne_none _

end XsdDerivation
