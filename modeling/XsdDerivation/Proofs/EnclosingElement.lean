import XsdDerivation.Proofs.History
import XsdDerivation.Proofs.Visit

/-!
# The enclosing element

A visit passes the element that encloses a declaration on to the visits of all its bases. The
fault of a blank base reference tells its name, from however far down it comes, and nothing else
that a visit finds or records depends on it.
-/

namespace XsdDerivation

/-- In another enclosing element a visit goes the same way and finds its fault there. -/
theorem Visit.within {other : Option Element} {run after : Run} {id : TypeId}
    {fault : Option Fault} (hvisit : Visit other run id after fault) (parent : Option Element) :
    Visit parent run id after (fault.map (Fault.within parent)) := by
  have hsame {run : Run} {declaration prepared : Declaration} {remainder : Remainder}
      (hprepare : declaration.prepare run.registry other = (prepared, remainder)) :
      declaration.prepare run.registry parent = (prepared, remainder.within parent) := by
    rw [declaration.prepare_within run.registry parent other, hprepare]
  induction hvisit with
  | settled hsettled => exact .settled hsettled
  | missing hget => exact .missing hget
  | circular hcompleted hfailed hactive hget => exact .circular hcompleted hfailed hactive hget
  | plain hopens hprepare => exact .plain hopens (hsame hprepare)
  | faulty hopens hprepare => exact .faulty hopens (hsame hprepare)
  | stuck hopens hprepare _ ih => exact .stuck hopens (hsame hprepare) ih
  | derived hopens hprepare _ ih => exact .derived hopens (hsame hprepare) ih

namespace Run

/-- **The enclosing element is named and has no other influence.** In any two enclosing elements,
or in none, a visit leaves the same run, with the same types recorded, active, resolved and failed,
and it finds a fault in both or in neither. The faults are the same, except that the one of a blank
base reference names the element in which the visit began. -/
theorem visit_within (run : Run) (parent other : Option Element) (id : TypeId) :
    (run.visit parent id).1 = (run.visit other id).1 ∧
      (run.visit parent id).2.isSome = (run.visit other id).2.isSome ∧
      (run.visit parent id).2 = (run.visit other id).2.map (Fault.within parent) ∧
      ∀ element position, (run.visit parent id).2 = some (.emptyBase element position) →
        element = parent.map (·.name) := by
  have hvisit := ((run.visit_spec other id).within parent).visit_eq
  rw [hvisit]
  refine ⟨rfl, Option.isSome_map, rfl, fun element position hfault => ?_⟩
  obtain ⟨found, _, hwithin⟩ := Option.map_eq_some_iff.mp hfault
  cases found with
  | emptyBase => exact (Fault.emptyBase.inj hwithin).1.symm
  | unknownBase => cases hwithin
  | circularDerivation => cases hwithin
  | unknownElementType => cases hwithin

/-- A type that extends one that extends one with a blank base reference. -/
def blankRoot : Run :=
  start (.replay .empty
    [.register (.extending "Leaf" "Middle" none), .register (.extending "Middle" "Root" none),
      .register (.extending "Root" " " none)])

/-- The blank reference is reported with the name of the element in which the visit of the first
type begins. -/
theorem visit_within_blankRoot :
    (blankRoot.visit (some (.named "order")) ⟨0⟩).2 =
        some (.emptyBase (some "order") .unknown) ∧
      (blankRoot.visit none ⟨0⟩).2 = some (.emptyBase none .unknown) ∧
      (blankRoot.visit (some (.named "order")) ⟨0⟩).1 = (blankRoot.visit none ⟨0⟩).1 := by
  obtain ⟨hrun, -, hfault, -⟩ := visit_within blankRoot (some (.named "order")) none ⟨0⟩
  have hnone : (blankRoot.visit none ⟨0⟩).2 = some (.emptyBase none .unknown) := by decide +kernel
  refine ⟨?_, hnone, hrun⟩
  exact hfault.trans (congrArg (Option.map (Fault.within (some (.named "order")))) hnone)

end Run

end XsdDerivation
