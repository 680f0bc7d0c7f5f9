import Mathlib.Data.List.Nodup
import Mathlib.Data.List.Perm.Subperm
import Mathlib.Logic.Function.Iterate
import XsdDerivation.Proofs.RunInvariant

/-!
# Visits step by step

A visit waits for the visit of the base of its type, which may wait for another one. The machine
of this module goes from one beginning or end of a visit to the next and keeps the waiting visits
on a stack. It comes to the result of the visit after at most two steps for each type of the
registry and one more, and as every waiting visit is of another type the stack never outgrows the
registry.
-/

namespace XsdDerivation

/-- Distinct types of a registry are not more than its size. -/
theorem length_le_of_index_lt {ids : List TypeId} {size : Nat} (hnodup : ids.Nodup)
    (hlt : ∀ id ∈ ids, id.index < size) : ids.length ≤ size := by
  have hindices : (ids.map TypeId.index).Nodup :=
    List.Nodup.map (fun _ _ hindex => congrArg TypeId.mk hindex) hnodup
  have hsubset : ids.map TypeId.index ⊆ List.range size := by
    intro index hindex
    obtain ⟨id, hid, rfl⟩ := List.mem_map.mp hindex
    exact List.mem_range.mpr (hlt id hid)
  simpa using (hindices.subperm hsubset).length_le

/-! ### The machine -/

/-- What happens next. -/
inductive Turn where
  /-- The visit of a type begins. -/
  | call (id : TypeId)
  /-- A visit has ended with a fault or none, and the last waiting one goes on. -/
  | back (fault : Option Fault)

/-- A visit that is open until the visit of the base of its type ends. -/
structure Waiting where
  /-- The type visited. -/
  id : TypeId
  /-- Its base. -/
  base : TypeId

/-- A moment of a visit, between the beginnings and the ends of the visits that it consists of. -/
structure Moment where
  /-- The run as it is at this moment. -/
  run : Run
  /-- The open visits that wait for another one, the latest first. -/
  waiting : List Waiting
  /-- The types entered so far, in order. -/
  entered : List TypeId
  /-- What happens next. -/
  turn : Turn

namespace Moment

/-- The number of visits that are open. -/
def openVisits (moment : Moment) : Nat :=
  match moment.turn with
  | .call _ => moment.waiting.length + 1
  | .back _ => moment.waiting.length

/-- The moment at which a visit begins. -/
def begin (run : Run) (id : TypeId) : Moment :=
  ⟨run, [], [], .call id⟩

/-- A visit begins. It ends at once, or waits for the visit of the base of its type. -/
def call (parent : Option Element) (moment : Moment) (id : TypeId) : Moment :=
  if moment.run.isCompleted id || moment.run.hasFailed id then { moment with turn := .back none }
  else
    match moment.run.registry.get? id with
    | none => { moment with turn := .back none }
    | some declaration =>
      if id ∈ moment.run.active then
        { moment with turn := .back (some (.circularDerivation declaration.name)) }
      else
        let entered := moment.entered ++ [id]
        match declaration.prepare moment.run.registry parent with
        | (prepared, .nothing) =>
          ⟨(moment.run.enter id prepared).complete id, moment.waiting, entered, .back none⟩
        | (prepared, .fault fault) =>
          ⟨(moment.run.enter id prepared).fail id, moment.waiting, entered, .back (some fault)⟩
        | (prepared, .base base) =>
          ⟨moment.run.enter id prepared, ⟨id, base⟩ :: moment.waiting, entered, .call base⟩

/-- The visit of a base has ended, and with it ends the visit that waits for it. -/
def back (moment : Moment) (fault : Option Fault) : Moment :=
  match moment.waiting with
  | [] => moment
  | last :: waiting =>
    match fault with
    | some fault => ⟨moment.run.fail last.id, waiting, moment.entered, .back (some fault)⟩
    | none =>
      ⟨(moment.run.recordBase last.id last.base).complete last.id, waiting, moment.entered,
        .back none⟩

/-- The next moment. Nothing happens any more once the first visit has ended. -/
def step (parent : Option Element) (moment : Moment) : Moment :=
  match moment.turn with
  | .call id => moment.call parent id
  | .back fault => moment.back fault

/-! ### Coming to the result -/

/-- The machine comes from the beginning of a visit to its end, whatever waits for it. -/
theorem exists_iterate_step (run : Run) (parent : Option Element) (id : TypeId)
    (waiting : List Waiting) (entered : List TypeId) :
    ∃ steps ≤ 2 * (run.logVisit parent id).2.length + 1,
      (step parent)^[steps] ⟨run, waiting, entered, .call id⟩ =
        ⟨(run.logVisit parent id).1.1, waiting, entered ++ (run.logVisit parent id).2,
          .back (run.logVisit parent id).1.2⟩ := by
  fun_induction Run.logVisit run parent id generalizing waiting entered with
  | case1 run id hsettled => exact ⟨1, by omega, by simp [step, call, hsettled]⟩
  | case2 run id hsettled hget => exact ⟨1, by omega, by simp [step, call, hsettled, hget]⟩
  | case3 run id hsettled declaration hget hactive =>
    exact ⟨1, by omega, by simp [step, call, hsettled, hget, hactive]⟩
  | case4 run id hsettled declaration hget hactive prepared hprepare
  | case5 run id hsettled declaration hget hactive prepared fault hprepare =>
    exact ⟨1, by omega, by simp [step, call, hsettled, hget, hactive, hprepare]⟩
  | case6 run id hsettled declaration hget hactive prepared base hprepare after fault log hvisit ih
  | case7 run id hsettled declaration hget hactive prepared base hprepare after log hvisit ih =>
    obtain ⟨steps, hle, hsteps⟩ := ih (⟨id, base⟩ :: waiting) (entered ++ [id])
    have hfirst : step parent ⟨run, waiting, entered, .call id⟩ =
        ⟨run.enter id prepared, ⟨id, base⟩ :: waiting, entered ++ [id], .call base⟩ := by
      simp [step, call, hsettled, hget, hactive, hprepare]
    rw [hvisit] at hle hsteps
    refine ⟨steps + 1 + 1, by simp_all only [List.length_cons]; omega, ?_⟩
    rw [Function.iterate_succ_apply', Function.iterate_succ_apply, hfirst, hsteps]
    simp [step, back]

/-! ### The visits that are open -/

/-- The waiting visits are of different types, each of them in the middle of its visit. -/
structure Waits (size : Nat) (moment : Moment) : Prop where
  /-- The number of types stays the same. -/
  size_eq : moment.run.registry.size = size
  /-- No two waiting visits are of the same type. -/
  nodup : (moment.waiting.map Waiting.id).Nodup
  /-- A type whose visit waits is in the middle of its visit. -/
  active : ∀ id ∈ moment.waiting.map Waiting.id, id ∈ moment.run.active
  /-- A type whose visit waits is registered. -/
  lt_size : ∀ id ∈ moment.waiting.map Waiting.id, id.index < size

variable {size : Nat} {moment other : Moment} {parent : Option Element} {id : TypeId}
  {run : Run} {waiting : List Waiting} {entered : List TypeId}

theorem waits_begin : (begin run id).Waits run.registry.size :=
  ⟨rfl, .nil, by simp [begin], by simp [begin]⟩

/-- The same visits wait if the run has the same types in the middle of their visits. -/
theorem Waits.of_active_eq (hwaits : moment.Waits size) {turn : Turn}
    (hactive : run.active = moment.run.active)
    (hsize : run.registry.size = moment.run.registry.size) :
    (Moment.mk run moment.waiting entered turn).Waits size :=
  ⟨hsize.trans hwaits.size_eq, hwaits.nodup, fun id hid => hactive ▸ hwaits.active id hid,
    hwaits.lt_size⟩

/-- One more visit waits, of a type that was not in the middle of its visit before. -/
theorem Waits.enter (hwaits : moment.Waits size) {declaration prepared : Declaration}
    {base : TypeId} {turn : Turn} (hopens : moment.run.Opens id declaration) :
    (Moment.mk (moment.run.enter id prepared) (⟨id, base⟩ :: moment.waiting) entered turn).Waits
      size := by
  have hlt : id.index < size := hwaits.size_eq ▸ Registry.lt_size_of_get? hopens.get?
  refine ⟨?_, List.nodup_cons.mpr ⟨fun hmem => ?_, hwaits.nodup⟩, fun other hother => ?_,
    List.forall_mem_cons.mpr ⟨hlt, hwaits.lt_size⟩⟩
  · simpa [Run.enter] using hwaits.size_eq
  · exact hopens.not_active (hwaits.active id hmem)
  · rcases List.mem_cons.mp hother with rfl | hother
    · exact List.mem_cons_self ..
    · exact List.mem_cons_of_mem _ (hwaits.active other hother)

/-- The last waiting visit ends, and its type is no longer in the middle of its visit. -/
theorem Waits.leave {last : Waiting} {turn : Turn} (hwaits : moment.Waits size)
    (hwaiting : moment.waiting = last :: waiting)
    (hactive : run.active = moment.run.active.erase last.id)
    (hsize : run.registry.size = moment.run.registry.size) :
    (Moment.mk run waiting entered turn).Waits size := by
  have hnodup := hwaits.nodup
  rw [hwaiting, List.map_cons, List.nodup_cons] at hnodup
  have hmem (id : TypeId) (hid : id ∈ waiting.map Waiting.id) :
      id ∈ moment.waiting.map Waiting.id := by
    rw [hwaiting]
    exact List.mem_cons_of_mem _ hid
  refine ⟨hsize.trans hwaits.size_eq, hnodup.2, fun id hid => ?_,
    fun id hid => hwaits.lt_size id (hmem id hid)⟩
  have hne : id ≠ last.id := fun heq => hnodup.1 (heq ▸ hid)
  rw [hactive]
  exact (List.mem_erase_of_ne hne).mpr (hwaits.active id (hmem id hid))

theorem Waits.call (hwaits : moment.Waits size) : (moment.call parent id).Waits size := by
  unfold Moment.call
  split
  · exact hwaits.of_active_eq rfl rfl
  · rename_i hsettled
    split
    · exact hwaits.of_active_eq rfl rfl
    · rename_i declaration hget
      split
      · exact hwaits.of_active_eq rfl rfl
      · rename_i hactive
        have hopens := Run.opens_of_unsettled hsettled hactive hget
        split
        · exact hwaits.of_active_eq (by simp [Run.enter, Run.complete])
            (by simp [Run.enter, Run.complete])
        · exact hwaits.of_active_eq (by simp [Run.enter, Run.fail]) (by simp [Run.enter, Run.fail])
        · exact hwaits.enter hopens

theorem Waits.back {fault : Option Fault} (hwaits : moment.Waits size) :
    (moment.back fault).Waits size := by
  unfold Moment.back
  split
  · exact hwaits
  · rename_i last waiting hwaiting
    split
    · exact hwaits.leave hwaiting rfl rfl
    · refine hwaits.leave hwaiting (by simp [Run.complete]) ?_
      exact Registry.size_eq_of_forget Run.forget_recordBase

theorem Waits.step (hwaits : moment.Waits size) : (moment.step parent).Waits size := by
  unfold Moment.step
  split
  · exact hwaits.call
  · exact hwaits.back

theorem waits_iterate_step (run : Run) (parent : Option Element) (id : TypeId) (steps : Nat) :
    ((step parent)^[steps] (begin run id)).Waits run.registry.size := by
  induction steps with
  | zero => exact waits_begin
  | succ steps ih =>
    rw [Function.iterate_succ_apply']
    exact ih.step

/-- At most one visit for each type is open, and one that has begun just now. -/
theorem Waits.openVisits_le (hwaits : moment.Waits size) : moment.openVisits ≤ size + 1 := by
  have hlength := length_le_of_index_lt hwaits.nodup hwaits.lt_size
  rw [List.length_map] at hlength
  unfold openVisits
  split <;> omega

end Moment

namespace Run

/-- A pass over a list together with the types that it enters, in order, until it stops. -/
def logAll (failFast : Bool) : Run → List TypeId → (Run × List Fault) × List TypeId
  | run, [] => ((run, []), [])
  | run, id :: ids =>
    match run.logVisit none id with
    | ((run, none), log) =>
      let (result, rest) := run.logAll failFast ids
      (result, log ++ rest)
    | ((run, some fault), log) =>
      if failFast then ((run, [fault]), log)
      else
        let ((run, faults), rest) := run.logAll failFast ids
        ((run, fault :: faults), log ++ rest)

/-- Apart from the types that it lists, the logged pass is the pass. -/
theorem fst_logAll (failFast : Bool) (run : Run) (ids : List TypeId) :
    (run.logAll failFast ids).1 = run.visitAll failFast ids := by
  induction ids generalizing run with
  | nil => rfl
  | cons id ids ih =>
    rw [visitAll, ← fst_logVisit, logAll]
    generalize run.logVisit none id = result
    rcases result with ⟨⟨after, _ | fault⟩, log⟩
    · exact ih after
    · cases failFast with
      | true => rfl
      | false => exact congrArg (fun rest => (rest.1, fault :: rest.2)) (ih after)

/-- A pass over a list enters types that were not seen before, each once. -/
theorem logs_logAll (failFast : Bool) (run : Run) (ids : List TypeId) :
    run.Logs (run.visitAll failFast ids).1 (run.logAll failFast ids).2 := by
  induction ids generalizing run with
  | nil => exact logs_nil
  | cons id ids ih =>
    have hlogs := run.logs_logVisit none id
    rw [← fst_logVisit] at hlogs
    rw [visitAll, ← fst_logVisit, logAll]
    generalize run.logVisit none id = result at hlogs
    rcases result with ⟨⟨after, _ | fault⟩, log⟩
    · exact hlogs.append (ih after)
    · cases failFast with
      | true => exact hlogs
      | false => exact hlogs.append (ih after)

/-- A visit enters registered types. -/
theorem index_lt_of_mem_logVisit {run : Run} {parent : Option Element} {id other : TypeId}
    (hmem : other ∈ (run.logVisit parent id).2) : other.index < run.registry.size := by
  fun_induction logVisit run parent id with
  | case1 | case2 | case3 => cases hmem
  | case4 run id hsettled declaration hget | case5 run id hsettled declaration hget =>
    rw [List.mem_singleton.mp hmem]
    exact Registry.lt_size_of_get? hget
  | case6 run id hsettled declaration hget hactive prepared base hprepare after fault log hvisit ih
  | case7 run id hsettled declaration hget hactive prepared base hprepare after log hvisit ih =>
    rcases List.mem_cons.mp hmem with rfl | hmem
    · exact Registry.lt_size_of_get? hget
    · rw [hvisit] at ih
      simpa [enter] using ih hmem

/-- **Every visit ends.** Whatever the run, the machine comes to the result of a visit in a number
of steps that the number of types bounds, and at no moment are more visits open than there are
types and one more. A pass over the registry enters each type at most once, and those that it enters
are those that it has seen. Visit and pass are the same whether the entered types are listed or
not. -/
theorem visit_ends (run : Run) (parent : Option Element) (id : TypeId) (failFast : Bool) :
    (∃ steps ≤ 2 * run.registry.size + 1,
      (Moment.step parent)^[steps] (.begin run id) =
        ⟨(run.visit parent id).1, [], (run.logVisit parent id).2,
          .back (run.visit parent id).2⟩) ∧
    (run.logVisit parent id).1 = run.visit parent id ∧
    (∀ steps, ((Moment.step parent)^[steps] (.begin run id)).openVisits ≤
      run.registry.size + 1) ∧
    ((start run.registry).logAll failFast run.registry.ids).1 =
      (start run.registry).visitAll failFast run.registry.ids ∧
    (start run.registry).Logs
      ((start run.registry).visitAll failFast run.registry.ids).1
      ((start run.registry).logAll failFast run.registry.ids).2 := by
  refine ⟨?_, fst_logVisit run parent id,
    fun steps => (Moment.waits_iterate_step run parent id steps).openVisits_le,
    fst_logAll failFast (start run.registry) run.registry.ids,
    logs_logAll failFast (start run.registry) run.registry.ids⟩
  obtain ⟨steps, hle, hsteps⟩ := Moment.exists_iterate_step run parent id [] []
  have hlog : (run.logVisit parent id).2.length ≤ run.registry.size :=
    length_le_of_index_lt (run.logs_logVisit parent id).nodup fun _ => index_lt_of_mem_logVisit
  rw [fst_logVisit, List.nil_append] at hsteps
  exact ⟨steps, by omega, hsteps⟩

end Run

end XsdDerivation
