import XsdDerivation.Proofs.RunInvariant

/-!
# The extent of a visit

A visit follows declared bases and nothing else. The types that it enters, settles or changes are
those that declared bases lead to, so that a type which only elements name is left alone, and an
element may have the type in which it is declared.
-/

namespace XsdDerivation

namespace Run

variable {run middle after : Run} {id other base : TypeId} {prepared : Declaration}

/-- Nothing has happened to the type on the way from one run to the other. -/
structure Spares (run after : Run) (other : TypeId) : Prop where
  /-- The type is declared as before, and nothing else is recorded in it. -/
  get?_eq : after.registry.get? other = run.registry.get? other
  /-- The type has not been resolved on the way. -/
  completed_iff : other ∈ after.completed ↔ other ∈ run.completed
  /-- The type has not failed on the way. -/
  failed_iff : other ∈ after.failed ↔ other ∈ run.failed

theorem Spares.refl (run : Run) (other : TypeId) : run.Spares run other :=
  ⟨rfl, Iff.rfl, Iff.rfl⟩

theorem Spares.trans (hfirst : run.Spares middle other) (hsecond : middle.Spares after other) :
    run.Spares after other where
  get?_eq := hsecond.get?_eq.trans hfirst.get?_eq
  completed_iff := hsecond.completed_iff.trans hfirst.completed_iff
  failed_iff := hsecond.failed_iff.trans hfirst.failed_iff

/-- Beginning the visit of a type spares the others. -/
theorem spares_enter (hne : other ≠ id) : run.Spares (run.enter id prepared) other :=
  ⟨Registry.get?_replace_of_ne hne, Iff.rfl, Iff.rfl⟩

/-- Recording the base of a type spares the others. -/
theorem spares_recordBase (hne : other ≠ id) : run.Spares (run.recordBase id base) other :=
  ⟨get?_recordBase_of_ne hne, by rw [completed_recordBase], by rw [failed_recordBase]⟩

/-- Resolving a type spares the others. -/
theorem spares_complete (hne : other ≠ id) : run.Spares (run.complete id) other :=
  ⟨rfl, by simp [complete, hne], Iff.rfl⟩

/-- The failure of a type spares the others. -/
theorem spares_fail (hne : other ≠ id) : run.Spares (run.fail id) other :=
  ⟨rfl, Iff.rfl, by simp [fail, hne]⟩

/-- Where no declared bases lead from a type none lead from its base, whose visit is next. -/
theorem Opens.not_reaches_base {parent : Option Element} {declaration : Declaration}
    (hopens : run.Opens id declaration)
    (hprepare : declaration.prepare run.registry parent = (prepared, .base base))
    (hapart : ¬Reaches run.registry.declaredBase? id other) :
    ¬Reaches (run.enter id prepared).registry.declaredBase? base other := by
  have hsame : (run.enter id prepared).registry.declaredBase? = run.registry.declaredBase? :=
    Registry.declaredBase?_eq_of_forget
      (Registry.forget_replace hopens.get? (Opens.forget_prepared hprepare))
  rw [hsame]
  exact fun hreach => hapart (.head (hopens.declaredBase?_eq hprepare) hreach)

end Run

/-- **A visit spares the types to which no declared bases lead.** -/
theorem Visit.spares {parent : Option Element} {run after : Run} {id other : TypeId}
    {fault : Option Fault} (hvisit : Visit parent run id after fault)
    (hapart : ¬Reaches run.registry.declaredBase? id other) : run.Spares after other := by
  have hne {id : TypeId} {step : TypeId → Option TypeId} (hapart : ¬Reaches step id other) :
      other ≠ id := fun heq => hapart (heq ▸ .refl)
  induction hvisit with
  | settled => exact .refl ..
  | missing => exact .refl ..
  | circular => exact .refl ..
  | plain => exact (Run.spares_enter (hne hapart)).trans (Run.spares_complete (hne hapart))
  | faulty => exact (Run.spares_enter (hne hapart)).trans (Run.spares_fail (hne hapart))
  | @stuck run after id base declaration prepared fault hopens hprepare _ ih =>
    have hbegun : run.Spares (run.enter id prepared) other := Run.spares_enter (hne hapart)
    have hvisited := ih (hopens.not_reaches_base hprepare hapart)
    exact (hbegun.trans hvisited).trans (Run.spares_fail (hne hapart))
  | @derived run after id base declaration prepared hopens hprepare _ ih =>
    have hbegun : run.Spares (run.enter id prepared) other := Run.spares_enter (hne hapart)
    have hvisited := ih (hopens.not_reaches_base hprepare hapart)
    have hrecorded : after.Spares (after.recordBase id base) other :=
      Run.spares_recordBase (hne hapart)
    exact (hbegun.trans (hvisited.trans hrecorded)).trans (Run.spares_complete (hne hapart))

namespace Run

variable {run : Run} {parent : Option Element} {id other : TypeId}

/-- A visit does not enter the types that it spares. -/
theorem Spares.not_mem_logVisit (hspares : run.Spares (run.visit parent id).1 other) :
    other ∉ (run.logVisit parent id).2 := by
  have hlogs := run.logs_logVisit parent id
  have hactive := (run.visit_spec parent id).active_eq
  intro hmem
  refine hlogs.new other hmem ?_
  have hseen := (hlogs.seen_iff other).mpr (.inr hmem)
  rwa [Seen, hactive, hspares.completed_iff, hspares.failed_iff] at hseen

/-- A type that no base reference names is not reached from another one. -/
theorem not_reaches_of_not_declared {step : TypeId → Option TypeId} (hne : other ≠ id)
    (hnamed : ∀ derived, step derived ≠ some other) : ¬Reaches step id other := by
  intro hreach
  rcases Relation.ReflTransGen.cases_tail hreach with heq | ⟨derived, _, hstep⟩
  · exact hne heq
  · exact hnamed derived hstep

/-- **The extent of a visit.** A type to which something happens in a visit, or which is entered, is
one that declared bases lead to from the type visited. A type that no base reference names is left
alone by the visit of another type, whatever elements name it. The visit is the same whether the
entered types are listed or not. -/
theorem visit_extent (run : Run) (parent : Option Element) (id other : TypeId) :
    (run.logVisit parent id).1 = run.visit parent id ∧
    (¬run.Spares (run.visit parent id).1 other ∨ other ∈ (run.logVisit parent id).2 →
      Reaches run.registry.declaredBase? id other) ∧
    (other ≠ id → (∀ derived, run.registry.declaredBase? derived ≠ some other) →
      run.Spares (run.visit parent id).1 other ∧ other ∉ (run.logVisit parent id).2) := by
  have hspared (hapart : ¬Reaches run.registry.declaredBase? id other) :
      run.Spares (run.visit parent id).1 other ∧ other ∉ (run.logVisit parent id).2 := by
    have hspares := (run.visit_spec parent id).spares hapart
    exact ⟨hspares, hspares.not_mem_logVisit⟩
  refine ⟨fst_logVisit run parent id, fun htouched => ?_,
    fun hne hnamed => hspared (not_reaches_of_not_declared hne hnamed)⟩
  by_contra hapart
  obtain ⟨hspares, hentered⟩ := hspared hapart
  exact htouched.elim (fun hchanged => hchanged hspares) hentered

/-- A type with a base, of which one element has the type itself and the other a type that is only
named there. -/
def selfReference : Run :=
  start (.replay .empty
    [.register (.extending "Node" "Item" (some
        [{ Element.named "next" with typeReference := some "Node" },
          { Element.named "tag" with typeReference := some "Label" }])),
      .register (.complex { ComplexType.ofSequence [] with name := "Item" }),
      .register (.extending "Label" "Lost" none)])

/-- The visit of the type enters it and its base, and what only an element names is spared. -/
theorem visit_extent_selfReference :
    (selfReference.visit none ⟨0⟩).2 = none ∧
      (selfReference.logVisit none ⟨0⟩).2 = [⟨0⟩, ⟨1⟩] ∧
      Reaches selfReference.registry.declaredBase? ⟨0⟩ ⟨1⟩ ∧
      (∀ derived, selfReference.registry.declaredBase? derived ≠ some ⟨2⟩) ∧
      selfReference.Spares (selfReference.visit none ⟨0⟩).1 ⟨2⟩ ∧
      ⟨2⟩ ∉ (selfReference.logVisit none ⟨0⟩).2 := by
  have hlog : (selfReference.logVisit none ⟨0⟩).2 = [⟨0⟩, ⟨1⟩] := by decide +kernel
  have hnamed (derived : TypeId) : selfReference.registry.declaredBase? derived ≠ some ⟨2⟩ := by
    intro hbase
    have hlt : derived.index < 3 := Registry.lt_size_of_declaredBase? derived ⟨2⟩ hbase
    have hnone : ∀ index < 3, selfReference.registry.declaredBase? ⟨index⟩ ≠ some ⟨2⟩ := by
      decide +kernel
    exact hnone derived.index hlt hbase
  have hbase := (visit_extent selfReference none ⟨0⟩ ⟨1⟩).2.1 (.inr (by rw [hlog]; decide))
  have hlabel := (visit_extent selfReference none ⟨0⟩ ⟨2⟩).2.2 (by decide) hnamed
  exact ⟨by decide +kernel, hlog, hbase, hnamed, hlabel⟩

end Run

end XsdDerivation
