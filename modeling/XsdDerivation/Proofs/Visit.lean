import XsdDerivation.Proofs.Preparation
import XsdDerivation.Resolution.Run

/-!
# Visits as derivations

A visit goes from type to base until it ends and then settles the types on its way back. The
relation `Visit` has one rule for each way in which it can go, and `visit_spec` says that a
visit follows the rules. Facts about visits are proved by induction on the rules.
-/

namespace XsdDerivation

namespace Run

/-- The type is registered with this declaration and its visit has neither begun nor ended. -/
structure Opens (run : Run) (id : TypeId) (declaration : Declaration) : Prop where
  /-- The type has not been resolved. -/
  not_completed : id ∉ run.completed
  /-- The type has not failed. -/
  not_failed : id ∉ run.failed
  /-- The type is not in the middle of its visit. -/
  not_active : id ∉ run.active
  /-- The declaration of the type. -/
  get? : run.registry.get? id = some declaration

theorem opens_of_unsettled {run : Run} {id : TypeId} {declaration : Declaration}
    (hsettled : ¬(run.isCompleted id || run.hasFailed id) = true) (hactive : id ∉ run.active)
    (hget : run.registry.get? id = some declaration) : run.Opens id declaration := by
  rw [isCompleted, hasFailed, Bool.or_eq_true, not_or] at hsettled
  exact ⟨by simpa using hsettled.1, by simpa using hsettled.2, hactive, hget⟩

end Run

/-- A visit of a type takes a run to another one and finds a fault or none. -/
inductive Visit (parent : Option Element) : Run → TypeId → Run → Option Fault → Prop where
  /-- The type has been settled before. -/
  | settled {run : Run} {id : TypeId} (hsettled : id ∈ run.completed ∨ id ∈ run.failed) :
      Visit parent run id run none
  /-- There is no such type. -/
  | missing {run : Run} {id : TypeId} (hget : run.registry.get? id = none) :
      Visit parent run id run none
  /-- The type is in the middle of its visit. -/
  | circular {run : Run} {id : TypeId} {declaration : Declaration}
      (hcompleted : id ∉ run.completed) (hfailed : id ∉ run.failed) (hactive : id ∈ run.active)
      (hget : run.registry.get? id = some declaration) :
      Visit parent run id run (some (.circularDerivation declaration.name))
  /-- Nothing remains after the type has been prepared. -/
  | plain {run : Run} {id : TypeId} {declaration prepared : Declaration}
      (hopens : run.Opens id declaration)
      (hprepare : declaration.prepare run.registry parent = (prepared, .nothing)) :
      Visit parent run id ((run.enter id prepared).complete id) none
  /-- The type has a fault of its own. -/
  | faulty {run : Run} {id : TypeId} {declaration prepared : Declaration} {fault : Fault}
      (hopens : run.Opens id declaration)
      (hprepare : declaration.prepare run.registry parent = (prepared, .fault fault)) :
      Visit parent run id ((run.enter id prepared).fail id) (some fault)
  /-- The visit of the base finds a fault. -/
  | stuck {run after : Run} {id base : TypeId} {declaration prepared : Declaration}
      {fault : Fault} (hopens : run.Opens id declaration)
      (hprepare : declaration.prepare run.registry parent = (prepared, .base base))
      (hbase : Visit parent (run.enter id prepared) base after (some fault)) :
      Visit parent run id (after.fail id) (some fault)
  /-- The visit of the base finds no fault. -/
  | derived {run after : Run} {id base : TypeId} {declaration prepared : Declaration}
      (hopens : run.Opens id declaration)
      (hprepare : declaration.prepare run.registry parent = (prepared, .base base))
      (hbase : Visit parent (run.enter id prepared) base after none) :
      Visit parent run id ((after.recordBase id base).complete id) none

/-- Visiting a type follows the rules. -/
theorem Run.visit_spec (run : Run) (parent : Option Element) (id : TypeId) :
    Visit parent run id (run.visit parent id).1 (run.visit parent id).2 := by
  fun_induction Run.visit run parent id with
  | case1 run id hsettled => exact .settled (by simpa [isCompleted, hasFailed] using hsettled)
  | case2 run id _ hget => exact .missing hget
  | case3 run id hsettled declaration hget hactive =>
    rw [isCompleted, hasFailed, Bool.or_eq_true, not_or] at hsettled
    exact .circular (by simpa using hsettled.1) (by simpa using hsettled.2) hactive hget
  | case4 run id hsettled declaration hget hactive prepared hprepare =>
    exact .plain (Run.opens_of_unsettled hsettled hactive hget) hprepare
  | case5 run id hsettled declaration hget hactive prepared fault hprepare =>
    exact .faulty (Run.opens_of_unsettled hsettled hactive hget) hprepare
  | case6 run id hsettled declaration hget hactive prepared base hprepare after fault hvisit ih =>
    rw [hvisit] at ih
    exact .stuck (Run.opens_of_unsettled hsettled hactive hget) hprepare ih
  | case7 run id hsettled declaration hget hactive prepared base hprepare after hvisit ih =>
    rw [hvisit] at ih
    exact .derived (Run.opens_of_unsettled hsettled hactive hget) hprepare ih

/-- A visit that opens a type prepares its declaration and goes on with what remains. -/
theorem Run.Opens.visit_eq {run : Run} {parent : Option Element} {id : TypeId}
    {declaration : Declaration} (hopens : run.Opens id declaration) :
    run.visit parent id =
      match declaration.prepare run.registry parent with
      | (prepared, .nothing) => ((run.enter id prepared).complete id, none)
      | (prepared, .fault fault) => ((run.enter id prepared).fail id, some fault)
      | (prepared, .base base) =>
        match (run.enter id prepared).visit parent base with
        | (run, some fault) => (run.fail id, some fault)
        | (run, none) => ((run.recordBase id base).complete id, none) := by
  have hsettled : ¬(run.isCompleted id || run.hasFailed id) = true := by
    simp [isCompleted, hasFailed, hopens.not_completed, hopens.not_failed]
  rw [visit, if_neg hsettled]
  split
  · rename_i hnone
    rw [hopens.get?] at hnone
    cases hnone
  · rename_i found hfound
    obtain rfl : declaration = found := Option.some.inj (hopens.get?.symm.trans hfound)
    refine (dif_neg hopens.not_active).trans ?_
    rcases declaration.prepare run.registry parent with ⟨prepared, _ | base | fault⟩ <;> rfl

/-- The rules leave no choice: what follows them is the visit. -/
theorem Visit.visit_eq {run after : Run} {parent : Option Element} {id : TypeId}
    {fault : Option Fault} (hvisit : Visit parent run id after fault) :
    run.visit parent id = (after, fault) := by
  induction hvisit with
  | @settled run id hsettled =>
    rw [Run.visit, if_pos (by simpa [Run.isCompleted, Run.hasFailed] using hsettled)]
  | @missing run id hget =>
    rw [Run.visit]
    split
    · rfl
    · split <;> simp_all
  | @circular run id declaration hcompleted hfailed hactive hget =>
    rw [Run.visit, if_neg (by simp [Run.isCompleted, Run.hasFailed, hcompleted, hfailed])]
    split <;> simp_all
  | plain hopens hprepare => rw [hopens.visit_eq, hprepare]
  | faulty hopens hprepare => rw [hopens.visit_eq, hprepare]
  | stuck hopens hprepare _ ih =>
    rw [hopens.visit_eq, hprepare]
    dsimp only
    rw [ih]
  | derived hopens hprepare _ ih =>
    rw [hopens.visit_eq, hprepare]
    dsimp only
    rw [ih]

/-! ### What a visit leaves alone -/

namespace Registry

variable {registry : Registry} {id other base : TypeId} {declaration prepared : Declaration}

theorem get?_replace_self (hget : registry.get? id = some declaration) :
    (registry.replace id prepared).get? id = some prepared := by
  rw [get?_replace, if_pos rfl, hget]
  rfl

theorem get?_replace_of_ne (hne : other ≠ id) :
    (registry.replace id prepared).get? other = registry.get? other := by
  rw [get?_replace, if_neg fun hindex => hne (congrArg TypeId.mk hindex.symm)]

theorem get?_recordBase_self :
    (registry.recordBase id base).get? id =
      (registry.get? id).map (Declaration.recordBase base) := by
  rw [recordBase]
  cases hget : registry.get? id with
  | none => exact hget
  | some declaration => exact get?_replace_self hget

theorem get?_recordBase_of_ne (hne : other ≠ id) :
    (registry.recordBase id base).get? other = registry.get? other := by
  rw [recordBase]
  split
  · rfl
  · exact get?_replace_of_ne hne

/-- A replacement that keeps the declared parts of a declaration keeps those of the registry. -/
theorem forget_replace (hget : registry.get? id = some declaration)
    (hforget : prepared.forget = declaration.forget) :
    (registry.replace id prepared).forget = registry.forget := by
  have hentries : (registry.replace id prepared).forget.entries = registry.forget.entries := by
    refine Array.ext_getElem? fun index => ?_
    simp only [forget, mapDeclarations, replace, Array.getElem?_map, Array.getElem?_modify]
    split
    · rename_i hindex
      subst hindex
      obtain ⟨entry, hentry, hdeclaration⟩ := Option.map_eq_some_iff.mp hget
      rw [hentry, Option.map_some, Option.map_some, Option.map_some, hforget, hdeclaration]
    · rfl
  calc (registry.replace id prepared).forget
      = { registry.forget with entries := (registry.replace id prepared).forget.entries } := rfl
    _ = registry.forget := by rw [hentries]

/-- Recording a base keeps the declared parts. -/
theorem forget_recordBase : (registry.recordBase id base).forget = registry.forget := by
  rw [recordBase]
  split
  · rfl
  · rename_i declaration hget
    exact forget_replace hget (declaration.forget_recordBase base)

end Registry

namespace Run

variable {run : Run} {id other base : TypeId} {declaration prepared : Declaration}

/-- The visit of the type has begun, and perhaps ended. -/
def Seen (run : Run) (id : TypeId) : Prop :=
  id ∈ run.active ∨ id ∈ run.completed ∨ id ∈ run.failed

theorem Opens.not_seen (hopens : run.Opens id declaration) : ¬run.Seen id := by
  rintro (h | h | h)
  · exact hopens.not_active h
  · exact hopens.not_completed h
  · exact hopens.not_failed h

/-- The prepared declaration says the same. -/
theorem Opens.forget_prepared {parent : Option Element} {remainder : Remainder}
    (hprepare : declaration.prepare run.registry parent = (prepared, remainder)) :
    prepared.forget = declaration.forget := by
  have hforget := (declaration.prepare_forget run.registry parent).1
  rwa [hprepare] at hforget

/-- The base that remains is the declared one. -/
theorem Opens.declaredBase?_eq {parent : Option Element} (hopens : run.Opens id declaration)
    (hprepare : declaration.prepare run.registry parent = (prepared, .base base)) :
    run.registry.declaredBase? id = some base := by
  have hnamed : (declaration.prepare run.registry parent).2.base? = some base := by
    rw [hprepare]
    rfl
  rw [Registry.declaredBase?, hopens.get?, Option.bind_some, (Declaration.base_of_prepare hnamed).1]

/-- Beginning the visit of a type neither records a base nor drops one. -/
theorem Opens.recordedBase?_enter {parent : Option Element} {remainder : Remainder}
    (hopens : run.Opens id declaration)
    (hprepare : declaration.prepare run.registry parent = (prepared, remainder)) :
    (run.enter id prepared).registry.recordedBase? = run.registry.recordedBase? := by
  funext other
  by_cases heq : other = id
  · subst heq
    have hself : (run.enter other prepared).registry.get? other = some prepared :=
      Registry.get?_replace_self hopens.get?
    have hkeep := (declaration.prepare_forget run.registry parent).2
    rw [hprepare] at hkeep
    rw [Registry.recordedBase?, Registry.recordedBase?, hself, hopens.get?, Option.bind_some,
      Option.bind_some, hkeep]
  · have hsame : (run.enter id prepared).registry.get? other = run.registry.get? other :=
      Registry.get?_replace_of_ne heq
    rw [Registry.recordedBase?, Registry.recordedBase?, hsame]

@[simp] theorem active_recordBase : (run.recordBase id base).active = run.active := by
  unfold recordBase
  split <;> rfl

@[simp] theorem completed_recordBase : (run.recordBase id base).completed = run.completed := by
  unfold recordBase
  split <;> rfl

@[simp] theorem failed_recordBase : (run.recordBase id base).failed = run.failed := by
  unfold recordBase
  split <;> rfl

/-- Recording the base of a type leaves the other types alone. -/
theorem get?_recordBase_of_ne (hne : other ≠ id) :
    (run.recordBase id base).registry.get? other = run.registry.get? other := by
  unfold recordBase
  split
  · rfl
  · exact Registry.get?_recordBase_of_ne hne

/-- Recording the base of a type records no other base, and none that failed. -/
theorem recordedBase?_recordBase {next : TypeId}
    (hrecorded : (run.recordBase id base).registry.recordedBase? other = some next) :
    run.registry.recordedBase? other = some next ∨ next = base ∧ base ∉ run.failed := by
  unfold recordBase at hrecorded
  split at hrecorded
  · exact .inl hrecorded
  · rename_i hfailed
    have hfailed : base ∉ run.failed := by simpa [hasFailed] using hfailed
    by_cases heq : other = id
    · subst heq
      rw [Registry.recordedBase?, Registry.get?_recordBase_self] at hrecorded
      obtain ⟨changed, hchanged, hbase⟩ := Option.bind_eq_some_iff.mp hrecorded
      obtain ⟨found, _, rfl⟩ := Option.map_eq_some_iff.mp hchanged
      rw [Declaration.recordedBase?_recordBase] at hbase
      obtain ⟨_, _, hbase⟩ := Option.map_eq_some_iff.mp hbase
      exact .inr ⟨hbase.symm, hfailed⟩
    · rw [Registry.recordedBase?, Registry.get?_recordBase_of_ne heq] at hrecorded
      exact .inl hrecorded

theorem forget_recordBase : (run.recordBase id base).registry.forget = run.registry.forget := by
  unfold recordBase
  split
  · rfl
  · exact Registry.forget_recordBase

end Run

namespace Visit

variable {parent : Option Element} {run after : Run} {id other : TypeId} {fault : Option Fault}

/-- A visit ends in the middle of the visits in which it began. -/
theorem active_eq (hvisit : Visit parent run id after fault) : after.active = run.active := by
  induction hvisit with
  | settled => rfl
  | missing => rfl
  | circular => rfl
  | plain => exact List.erase_cons_head ..
  | faulty => exact List.erase_cons_head ..
  | stuck _ _ _ ih => rw [Run.fail, ih]; exact List.erase_cons_head ..
  | derived _ _ _ ih =>
    rw [Run.complete, Run.active_recordBase, ih]
    exact List.erase_cons_head ..

/-- A visit keeps what types say and changes what is recorded only. -/
theorem forget_eq (hvisit : Visit parent run id after fault) :
    after.registry.forget = run.registry.forget := by
  induction hvisit with
  | settled => rfl
  | missing => rfl
  | circular => rfl
  | @plain run id declaration prepared hopens hprepare =>
    have hforget := Run.Opens.forget_prepared hprepare
    exact Registry.forget_replace hopens.get? hforget
  | @faulty run id declaration prepared fault hopens hprepare =>
    have hforget := Run.Opens.forget_prepared hprepare
    exact Registry.forget_replace hopens.get? hforget
  | @stuck run after id base declaration prepared fault hopens hprepare _ ih =>
    have hforget := Run.Opens.forget_prepared hprepare
    exact ih.trans (Registry.forget_replace hopens.get? hforget)
  | @derived run after id base declaration prepared hopens hprepare _ ih =>
    have hforget := Run.Opens.forget_prepared hprepare
    exact Run.forget_recordBase.trans (ih.trans (Registry.forget_replace hopens.get? hforget))

/-- A visit keeps the recorded bases. -/
theorem recordedBase?_eq {base : TypeId} (hvisit : Visit parent run id after fault)
    (hrecorded : run.registry.recordedBase? other = some base) :
    after.registry.recordedBase? other = some base := by
  induction hvisit with
  | settled => exact hrecorded
  | missing => exact hrecorded
  | circular => exact hrecorded
  | plain hopens hprepare => exact (hopens.recordedBase?_enter hprepare) ▸ hrecorded
  | faulty hopens hprepare => exact (hopens.recordedBase?_enter hprepare) ▸ hrecorded
  | stuck hopens hprepare _ ih => exact ih ((hopens.recordedBase?_enter hprepare) ▸ hrecorded)
  | @derived run after id next declaration prepared hopens hprepare _ ih =>
    have hne : other ≠ id := by
      -- A base that remains to be resolved is not recorded.
      rintro rfl
      have hpending : (declaration.prepare run.registry parent).2.base? = some next := by
        rw [hprepare]
        rfl
      rw [Registry.recordedBase?, hopens.get?, Option.bind_some,
        (Declaration.base_of_prepare hpending).2] at hrecorded
      cases hrecorded
    have hkeep := ih ((hopens.recordedBase?_enter hprepare) ▸ hrecorded)
    rw [Registry.recordedBase?] at hkeep ⊢
    exact (congrArg (·.bind Declaration.recordedBase?) (Run.get?_recordBase_of_ne hne)).trans hkeep

/-- The visit of a type keeps the declarations of all types seen before. -/
theorem get?_eq_of_seen (hvisit : Visit parent run id after fault) (hseen : run.Seen other) :
    after.registry.get? other = run.registry.get? other := by
  induction hvisit with
  | settled => rfl
  | missing => rfl
  | circular => rfl
  | plain hopens => exact Registry.get?_replace_of_ne fun heq => hopens.not_seen (heq ▸ hseen)
  | faulty hopens => exact Registry.get?_replace_of_ne fun heq => hopens.not_seen (heq ▸ hseen)
  | @stuck run after id base declaration prepared fault hopens hprepare hbase ih =>
    have hne : other ≠ id := fun heq => hopens.not_seen (heq ▸ hseen)
    exact (ih (hseen.imp_left (List.mem_cons_of_mem _))).trans (Registry.get?_replace_of_ne hne)
  | @derived run after id base declaration prepared hopens hprepare hbase ih =>
    have hne : other ≠ id := fun heq => hopens.not_seen (heq ▸ hseen)
    exact (Run.get?_recordBase_of_ne hne).trans
      ((ih (hseen.imp_left (List.mem_cons_of_mem _))).trans (Registry.get?_replace_of_ne hne))

end Visit

/-! ### Runs over a registry -/

namespace Run

/-- The run started from the registry: what types say has not changed, and what is recorded in
a type has not changed before its visit. -/
structure Over (registry : Registry) (run : Run) : Prop where
  /-- What types say has not changed. -/
  forget_eq : run.registry.forget = registry.forget
  /-- Nothing has been recorded in a type that has not been seen. -/
  untouched : ∀ id, ¬run.Seen id → run.registry.get? id = registry.get? id
  /-- No type is in two states. -/
  nodup : (run.active ++ run.completed ++ run.failed).Nodup

variable {registry : Registry} {run : Run} {id base : TypeId} {declaration prepared : Declaration}

/-- A new run is one over its registry. -/
theorem over_start : (start registry).Over registry := ⟨rfl, fun _ _ => rfl, .nil⟩

theorem seen_enter_iff {other : TypeId} :
    (run.enter id prepared).Seen other ↔ other = id ∨ run.Seen other := by
  simp only [Seen, enter, List.mem_cons, or_assoc]

/-- The end of a visit changes the state of the type only. -/
theorem seen_complete_iff {rest : List TypeId} {other : TypeId}
    (hactive : run.active = id :: rest) :
    (run.complete id).Seen other ↔ run.Seen other := by
  simp only [Seen, complete, hactive, List.erase_cons_head, List.mem_cons]
  grind

theorem seen_fail_iff {rest : List TypeId} {other : TypeId} (hactive : run.active = id :: rest) :
    (run.fail id).Seen other ↔ run.Seen other := by
  simp only [Seen, fail, hactive, List.erase_cons_head, List.mem_cons]
  grind

theorem seen_recordBase_iff {other : TypeId} :
    (run.recordBase id base).Seen other ↔ run.Seen other := by
  simp only [Seen, active_recordBase, completed_recordBase, failed_recordBase]

theorem Over.enter (hover : run.Over registry) (hopens : run.Opens id declaration)
    (hforget : prepared.forget = declaration.forget) :
    (run.enter id prepared).Over registry := by
  refine ⟨?_, fun other hother => ?_, ?_⟩
  · exact (Registry.forget_replace hopens.get? hforget).trans hover.forget_eq
  · rw [seen_enter_iff, not_or] at hother
    exact (Registry.get?_replace_of_ne hother.1).trans (hover.untouched other hother.2)
  · have hnew : id ∉ run.active ++ run.completed ++ run.failed := by
      simpa only [Seen, List.mem_append, or_assoc] using hopens.not_seen
    exact List.nodup_cons.mpr ⟨hnew, hover.nodup⟩

theorem Over.complete {rest : List TypeId} (hover : run.Over registry)
    (hactive : run.active = id :: rest) : (run.complete id).Over registry := by
  refine ⟨hover.forget_eq, fun other hother => ?_, ?_⟩
  · rw [seen_complete_iff hactive] at hother
    exact hover.untouched other hother
  · have hnodup := hover.nodup
    rw [hactive] at hnodup
    rw [Run.complete, hactive, List.erase_cons_head]
    refine hnodup.perm ?_
    simp only [List.cons_append, List.append_assoc]
    exact List.perm_middle.symm

theorem Over.fail {rest : List TypeId} (hover : run.Over registry)
    (hactive : run.active = id :: rest) : (run.fail id).Over registry := by
  refine ⟨hover.forget_eq, fun other hother => ?_, ?_⟩
  · rw [seen_fail_iff hactive] at hother
    exact hover.untouched other hother
  · have hnodup := hover.nodup
    rw [hactive] at hnodup
    rw [Run.fail, hactive, List.erase_cons_head]
    refine hnodup.perm ?_
    simp only [List.cons_append]
    exact List.perm_middle.symm

theorem Over.recordBase (hover : run.Over registry) (hactive : id ∈ run.active) (base : TypeId) :
    (run.recordBase id base).Over registry := by
  refine ⟨forget_recordBase.trans hover.forget_eq, fun other hother => ?_, ?_⟩
  · rw [seen_recordBase_iff] at hother
    have hne : other ≠ id := fun heq => hother (.inl (heq ▸ hactive))
    exact (get?_recordBase_of_ne hne).trans (hover.untouched other hother)
  · simpa using hover.nodup

/-- A type in the middle of its visit is not settled. -/
theorem Over.ne_of_active {other : TypeId} (hover : run.Over registry) (hactive : id ∈ run.active)
    (hsettled : other ∈ run.completed ∨ other ∈ run.failed) : other ≠ id := by
  have hnodup := hover.nodup
  rw [List.append_assoc] at hnodup
  exact fun heq => (List.nodup_append.mp hnodup).2.2 id hactive other
    (List.mem_append.mpr hsettled) heq.symm

/-- A type that has been resolved has not failed. -/
theorem Over.not_failed (hover : run.Over registry) (hcompleted : id ∈ run.completed) :
    id ∉ run.failed := by
  have hnodup := hover.nodup
  rw [List.append_assoc] at hnodup
  have hdisjoint := (List.nodup_append.mp (List.nodup_append.mp hnodup).2.1).2.2
  exact fun hfailed => hdisjoint id hcompleted id hfailed rfl

/-- A run does not lose types. -/
theorem Over.get?_ne_none (hover : run.Over registry) (hget : registry.get? id ≠ none) :
    run.registry.get? id ≠ none := by
  rw [Registry.get?_ne_none_iff] at hget ⊢
  rwa [Registry.size_eq_of_forget hover.forget_eq]

/-- What remains for a type when its visit begins is what remains for it in the registry. -/
theorem Over.remainderOf_eq {parent : Option Element} {remainder : Remainder}
    (hover : run.Over registry) (hopens : run.Opens id declaration)
    (hprepare : declaration.prepare run.registry parent = (prepared, remainder)) :
    registry.remainderOf parent id = remainder := by
  rw [Declaration.prepare_congr (Registry.findReferenced?_eq_of_forget hover.forget_eq)] at hprepare
  rw [Registry.remainderOf, ← hover.untouched id hopens.not_seen, hopens.get?, Option.elim_some,
    hprepare]

end Run

/-- A visit leads to another run over the same registry. -/
theorem Visit.over {registry : Registry} {parent : Option Element} {run after : Run} {id : TypeId}
    {fault : Option Fault} (hvisit : Visit parent run id after fault)
    (hover : run.Over registry) : after.Over registry := by
  induction hvisit with
  | settled => exact hover
  | missing => exact hover
  | circular => exact hover
  | plain hopens hprepare =>
    exact (hover.enter hopens (Run.Opens.forget_prepared hprepare)).complete rfl
  | faulty hopens hprepare =>
    exact (hover.enter hopens (Run.Opens.forget_prepared hprepare)).fail rfl
  | stuck hopens hprepare hbase ih =>
    exact (ih (hover.enter hopens (Run.Opens.forget_prepared hprepare))).fail hbase.active_eq
  | @derived run after id base declaration prepared hopens hprepare hbase ih =>
    have hactive : after.active = id :: run.active := hbase.active_eq
    have hrecorded := (ih (hover.enter hopens (Run.Opens.forget_prepared hprepare))).recordBase
      (hactive ▸ List.mem_cons_self ..) base
    exact hrecorded.complete (Run.active_recordBase.trans hactive)

end XsdDerivation
