import XsdDerivation.Proofs.Grounded
import XsdDerivation.Proofs.History
import XsdDerivation.Proofs.Lineage
import XsdDerivation.Proofs.Runs

/-!
# What one run keeps

A run over a registry that has never been compiled enters each type at most once, records a base
only after it has resolved the base, and records none for a type that failed. Therefore the bases
that it records never loop, and what the types offer can be asked for at any time between its
visits.
-/

namespace XsdDerivation

namespace Run

variable {registry : Registry} {run : Run} {parent : Option Element} {id : TypeId}
  {calls : List (Option Element × TypeId)}

/-! ### Entering types -/

/-- A visit together with the types that it enters, in order: those whose declarations it
prepares. -/
def logVisit (run : Run) (parent : Option Element) (id : TypeId) :
    (Run × Option Fault) × List TypeId :=
  if run.isCompleted id || run.hasFailed id then ((run, none), [])
  else
    match _ : run.registry.get? id with
    | none => ((run, none), [])
    | some declaration =>
      if _ : id ∈ run.active then ((run, some (.circularDerivation declaration.name)), [])
      else
        match declaration.prepare run.registry parent with
        | (prepared, .nothing) => (((run.enter id prepared).complete id, none), [id])
        | (prepared, .fault fault) => (((run.enter id prepared).fail id, some fault), [id])
        | (prepared, .base base) =>
          match (run.enter id prepared).logVisit parent base with
          | ((run, some fault), log) => ((run.fail id, some fault), id :: log)
          | ((run, none), log) => (((run.recordBase id base).complete id, none), id :: log)
termination_by unseen run.registry.size run.active
decreasing_by
  simp only [enter, Registry.size_replace]
  exact unseen_cons_lt (Registry.lt_size_of_get? (by assumption)) (by assumption)

/-- Apart from the types that it lists, the logged visit is the visit. -/
theorem fst_logVisit (run : Run) (parent : Option Element) (id : TypeId) :
    (run.logVisit parent id).1 = run.visit parent id := by
  fun_induction logVisit run parent id with
  | case1 run id hsettled => rw [visit, if_pos hsettled]
  | case2 run id hsettled | case3 run id hsettled | case4 run id hsettled | case5 run id hsettled =>
    rw [visit, if_neg hsettled]
    split <;> simp_all
  | case6 run id hsettled declaration hget hactive prepared base hprepare after fault log hvisit ih
  | case7 run id hsettled declaration hget hactive prepared base hprepare after log hvisit ih =>
    rw [hvisit] at ih
    rw [visit, if_neg hsettled]
    split <;> simp_all [← ih]

theorem active_logVisit (run : Run) (parent : Option Element) (id : TypeId) :
    (run.logVisit parent id).1.1.active = run.active := by
  rw [fst_logVisit]
  exact (run.visit_spec parent id).active_eq

/-- What the types that a visit enters have in common: none is entered twice, none was seen before,
and they are the ones seen after it and not before. -/
structure Logs (run after : Run) (log : List TypeId) : Prop where
  /-- No type is entered twice. -/
  nodup : log.Nodup
  /-- No type is entered that was seen before. -/
  new : ∀ id ∈ log, ¬run.Seen id
  /-- The types seen afterwards are those seen before and those entered. -/
  seen_iff : ∀ id, after.Seen id ↔ run.Seen id ∨ id ∈ log

/-- Nothing is entered by a visit that changes nothing. -/
theorem logs_nil : run.Logs run [] := ⟨.nil, by simp, by simp⟩

/-- A visit that begins with this type enters it and then what the visit of the base enters. -/
theorem Opens.logs {declaration prepared : Declaration} {after last : Run} {log : List TypeId}
    (hopens : run.Opens id declaration) (hlogs : (run.enter id prepared).Logs after log)
    (hlast : ∀ other, last.Seen other ↔ after.Seen other) : run.Logs last (id :: log) := by
  have hnew (other : TypeId) (hother : other ∈ log) : other ≠ id ∧ ¬run.Seen other := by
    have hunseen := hlogs.new other hother
    rwa [seen_enter_iff, not_or] at hunseen
  refine ⟨List.nodup_cons.mpr ⟨fun hmem => (hnew id hmem).1 rfl, hlogs.nodup⟩,
    fun other hother => ?_, fun other => ?_⟩
  · rcases List.mem_cons.mp hother with rfl | hother
    · exact hopens.not_seen
    · exact (hnew other hother).2
  · rw [hlast, hlogs.seen_iff, seen_enter_iff, List.mem_cons]
    grind

/-- A visit enters types that it has not seen before, each once. -/
theorem logs_logVisit (run : Run) (parent : Option Element) (id : TypeId) :
    run.Logs (run.visit parent id).1 (run.logVisit parent id).2 := by
  rw [← fst_logVisit]
  fun_induction logVisit run parent id with
  | case1 run id hsettled => exact logs_nil
  | case2 run id hsettled hget => exact logs_nil
  | case3 run id hsettled declaration hget hactive => exact logs_nil
  | case4 run id hsettled declaration hget hactive prepared hprepare =>
    exact (opens_of_unsettled hsettled hactive hget).logs logs_nil fun _ => seen_complete_iff rfl
  | case5 run id hsettled declaration hget hactive prepared fault hprepare =>
    exact (opens_of_unsettled hsettled hactive hget).logs logs_nil fun _ => seen_fail_iff rfl
  | case6 run id hsettled declaration hget hactive prepared base _ after fault log hvisit ih =>
    have hactiveEq := active_logVisit (run.enter id prepared) parent base
    rw [hvisit] at ih hactiveEq
    exact (opens_of_unsettled hsettled hactive hget).logs ih fun _ => seen_fail_iff hactiveEq
  | case7 run id hsettled declaration hget hactive prepared base _ after log hvisit ih =>
    have hactiveEq := active_logVisit (run.enter id prepared) parent base
    rw [hvisit] at ih hactiveEq
    refine (opens_of_unsettled hsettled hactive hget).logs ih fun _ => ?_
    rw [seen_complete_iff (active_recordBase.trans hactiveEq), seen_recordBase_iff]

/-- A list of visits together with the types that they enter, in order. -/
def logEach (run : Run) : List (Option Element × TypeId) → Run × List TypeId
  | [] => (run, [])
  | call :: calls =>
    let ((after, _), log) := run.logVisit call.1 call.2
    let (last, rest) := after.logEach calls
    (last, log ++ rest)

/-- The types that a list of visits enters, in order. -/
def entered (run : Run) (calls : List (Option Element × TypeId)) : List TypeId :=
  (run.logEach calls).2

/-- Apart from the types that they list, the logged visits are the visits. -/
theorem fst_logEach (run : Run) (calls : List (Option Element × TypeId)) :
    (run.logEach calls).1 = run.visitEach calls := by
  induction calls generalizing run with
  | nil => rfl
  | cons call calls ih =>
    rw [visitEach_cons, ← fst_logVisit, ← ih]
    rfl

theorem entered_cons (run : Run) (call : Option Element × TypeId)
    (calls : List (Option Element × TypeId)) :
    run.entered (call :: calls) =
      (run.logVisit call.1 call.2).2 ++ (run.visit call.1 call.2).1.entered calls := by
  rw [← fst_logVisit]
  rfl

/-- What is entered on the way to one run and from there to another one has this in common too. -/
theorem Logs.append {run middle after : Run} {first second : List TypeId}
    (hfirst : run.Logs middle first) (hsecond : middle.Logs after second) :
    run.Logs after (first ++ second) := by
  refine ⟨List.nodup_append.mpr ⟨hfirst.nodup, hsecond.nodup, ?_⟩, fun id hid => ?_, fun id => ?_⟩
  · rintro id hid _ hother rfl
    exact hsecond.new id hother ((hfirst.seen_iff id).mpr (.inr hid))
  · rcases List.mem_append.mp hid with hid | hid
    · exact hfirst.new id hid
    · exact fun hseen => hsecond.new id hid ((hfirst.seen_iff id).mpr (.inl hseen))
  · rw [hsecond.seen_iff, hfirst.seen_iff, List.mem_append, or_assoc]

/-- A list of visits enters types that were not seen before, each once. -/
theorem logs_entered (run : Run) (calls : List (Option Element × TypeId)) :
    run.Logs (run.visitEach calls) (run.entered calls) := by
  induction calls generalizing run with
  | nil => exact logs_nil
  | cons call calls ih =>
    rw [visitEach_cons, entered_cons]
    exact (run.logs_logVisit call.1 call.2).append (ih (run.visit call.1 call.2).1)

/-! ### Recording bases -/

/-- A visit that finds no fault leaves a registered type settled. -/
theorem settled_of_visit {after : Run} (hvisit : Visit parent run id after none)
    (hget : run.registry.get? id ≠ none) : id ∈ after.completed ∨ id ∈ after.failed := by
  cases hvisit with
  | settled hsettled => exact hsettled
  | missing hnone => exact absurd hnone hget
  | plain => exact .inl (List.mem_cons_self ..)
  | derived => exact .inl (List.mem_cons_self ..)

/-- A visit records bases that it has resolved before. -/
theorem completed_of_visit {after : Run} {fault : Option Fault}
    (hvisit : Visit parent run id after fault) (hindexed : run.registry.Indexed) :
    (∀ other ∈ run.completed, other ∈ after.completed) ∧
      ∀ other base, after.registry.recordedBase? other = some base →
        run.registry.recordedBase? other = some base ∨ base ∈ after.completed := by
  induction hvisit with
  | settled => exact ⟨fun _ h => h, fun _ _ h => .inl h⟩
  | missing => exact ⟨fun _ h => h, fun _ _ h => .inl h⟩
  | circular => exact ⟨fun _ h => h, fun _ _ h => .inl h⟩
  | plain hopens hprepare =>
    refine ⟨fun _ h => List.mem_cons_of_mem _ h, fun other base hrecorded => .inl ?_⟩
    rw [← hopens.recordedBase?_enter hprepare]
    exact hrecorded
  | faulty hopens hprepare =>
    refine ⟨fun _ h => h, fun other base hrecorded => .inl ?_⟩
    rw [← hopens.recordedBase?_enter hprepare]
    exact hrecorded
  | @stuck run after id base declaration prepared fault hopens hprepare hbase ih =>
    have hsame := Registry.forget_replace hopens.get? (Opens.forget_prepared hprepare)
    rw [← hopens.recordedBase?_enter hprepare]
    exact ih (hindexed.of_forget hsame)
  | @derived run after id base declaration prepared hopens hprepare hbase ih =>
    have hsame : (run.enter id prepared).registry.forget = run.registry.forget :=
      Registry.forget_replace hopens.get? (Opens.forget_prepared hprepare)
    obtain ⟨hgrows, hrecords⟩ := ih (hindexed.of_forget hsame)
    have hsettled : base ∈ after.completed ∨ base ∈ after.failed := by
      refine settled_of_visit hbase ?_
      have hget := hindexed.declaredBase?_registered (hopens.declaredBase?_eq hprepare)
      rw [Registry.get?_ne_none_iff] at hget ⊢
      rwa [Registry.size_eq_of_forget hsame]
    have hkeep (other : TypeId) (hother : other ∈ after.completed) :
        other ∈ ((after.recordBase id base).complete id).completed := by
      refine List.mem_cons_of_mem _ ?_
      rwa [completed_recordBase]
    refine ⟨fun other hother => hkeep other (hgrows other hother), fun other next hnext => ?_⟩
    rcases recordedBase?_recordBase hnext with hnext | ⟨rfl, hfailed⟩
    · rw [← hopens.recordedBase?_enter hprepare]
      exact (hrecords other next hnext).imp_right (hkeep next)
    · exact .inr (hkeep next (hsettled.resolve_right hfailed))

/-- A list of visits records bases that it has resolved before. -/
theorem completed_of_visitEach (hindexed : run.registry.Indexed) :
    (∀ other ∈ run.completed, other ∈ (run.visitEach calls).completed) ∧
      ∀ other base, (run.visitEach calls).registry.recordedBase? other = some base →
        run.registry.recordedBase? other = some base ∨ base ∈ (run.visitEach calls).completed := by
  induction calls generalizing run with
  | nil => exact ⟨fun _ h => h, fun _ _ h => .inl h⟩
  | cons call calls ih =>
    have hvisit := run.visit_spec call.1 call.2
    obtain ⟨hgrows, hrecords⟩ := completed_of_visit hvisit hindexed
    obtain ⟨hgrows', hrecords'⟩ := ih (hindexed.of_forget hvisit.forget_eq)
    rw [visitEach_cons]
    refine ⟨fun other hother => hgrows' other (hgrows other hother), fun other base hnext => ?_⟩
    refine (hrecords' other base hnext).elim (fun hnext => ?_) .inr
    exact (hrecords other base hnext).imp_right (hgrows' base)

/-! ### Runs over registries that have never been compiled -/

/-- What holds of a run between its visits. -/
structure Orderly (run : Run) : Prop where
  /-- No type is in the middle of its visit. -/
  active_eq : run.active = []
  /-- No type has both been resolved and failed. -/
  disjoint : ∀ id ∈ run.completed, id ∉ run.failed
  /-- A recorded base has been resolved. -/
  completed : ∀ id base, run.registry.recordedBase? id = some base → base ∈ run.completed
  /-- A type that failed has no recorded base. -/
  unrecorded : ∀ id ∈ run.failed, run.registry.recordedBase? id = none
  /-- Recorded bases do not loop. -/
  not_loops : ∀ id, ¬Loops run.registry.recordedBase? id
  /-- What a declaration offers is found by asking for finitely many bases. -/
  queries_end : WellFounded run.registry.Asks

/-- In a registry that has never been compiled a type with a recorded base has been settled. -/
theorem Over.isSettled_of_recordedBase? (hover : run.Over registry)
    (hnever : registry.NeverCompiled) (hactive : run.active = [])
    (hrecorded : run.registry.recordedBase? id ≠ none) : run.isSettled id = true := by
  by_cases hseen : run.Seen id
  · rcases hseen with h | h
    · rw [hactive] at h
      exact absurd h List.not_mem_nil
    · exact isSettled_iff.mpr h
  · rw [Registry.recordedBase?, hover.untouched id hseen] at hrecorded
    exact absurd (hnever.recordedBase?_eq id) hrecorded

/-- The bases recorded by a run over a registry that has never been compiled do not loop: a type
of a loop of declared bases to which a settled type leads has failed. -/
theorem Resting.not_loops (hrest : run.Resting registry) (hsound : run.Sound registry)
    (hnever : registry.NeverCompiled) (id : TypeId) :
    ¬Loops run.registry.recordedBase? id := by
  intro hloop
  have hpending : Loops registry.pendingBase? id := hloop.congr fun member base _ hrecorded => by
    obtain ⟨hfault, hdeclared⟩ := hsound.consistent_registry.of_recordedBase? hrecorded
    rw [Registry.localFault?_eq_of_forget hsound.forget_eq] at hfault
    rw [Registry.declaredBase?_eq_of_forget hsound.forget_eq] at hdeclared
    rw [hnever.pendingBase?_eq, Registry.nextBase?, hfault, Option.isSome_none,
      if_neg Bool.false_ne_true, hdeclared]
  have hsettled := hsound.isSettled_of_recordedBase? hnever hrest.active_eq hloop.ne_none
  have hfailed := hrest.defects id id hsettled .refl (.inr hpending)
  exact hloop.ne_none (hsound.unrecorded id hfailed)

/-- A run over a registry that has never been compiled is orderly between its visits. -/
theorem orderly_visitEach (hnever : registry.NeverCompiled)
    (hcalls : ∀ call ∈ calls, registry.get? call.2 ≠ none) :
    ((start registry).visitEach calls).Orderly := by
  have hrest := (resting_start.visitEach hnever.indexed hcalls).1
  have hsound : ((start registry).visitEach calls).Sound registry :=
    visitEach_induction (fun run hsound call _ => (run.visit_spec call.1 call.2).sound hsound)
      (sound_start hnever.grounded.consistent)
  have hloops := hrest.not_loops hsound hnever
  refine ⟨hrest.active_eq, fun id => hrest.not_failed, fun id base hrecorded => ?_,
    hsound.unrecorded, hloops,
    ⟨fun declaration => (Registry.chainEnds_of_not_loops hloops declaration).acc⟩⟩
  have hnone : (start registry).registry.recordedBase? id = none := hnever.recordedBase?_eq id
  refine ((completed_of_visitEach hnever.indexed).2 id base hrecorded).resolve_left ?_
  rw [hnone]
  exact fun h => Option.some_ne_none base h.symm

/-- The types that a run over a list of visits has entered are those that it has settled. -/
theorem mem_entered_iff (hactive : ((start registry).visitEach calls).active = []) :
    id ∈ (start registry).entered calls ↔ id ∈ ((start registry).visitEach calls).completed ∨
      id ∈ ((start registry).visitEach calls).failed := by
  have hseen := (logs_entered (start registry) calls).seen_iff id
  have hstart : ¬(start registry).Seen id := by simp [Seen, start]
  rw [Seen, hactive, or_iff_right List.not_mem_nil, or_iff_right hstart] at hseen
  exact hseen.symm

/-- **What one run keeps.** After any list of visits and one more visit the run is orderly, it has
entered the types that are settled, each once, what was settled before the last visit still is, and
the type visited last is settled. The run is the same whether the entered types are listed or
not. -/
theorem visit_orderly (hnever : registry.NeverCompiled)
    (hcalls : ∀ call ∈ calls, registry.get? call.2 ≠ none) (parent : Option Element)
    (hid : registry.get? id ≠ none) :
    (((start registry).visitEach calls).visit parent id).1.Orderly ∧
      ((start registry).logEach (calls ++ [(parent, id)])).1 =
        (((start registry).visitEach calls).visit parent id).1 ∧
      ((start registry).entered (calls ++ [(parent, id)])).Nodup ∧
      (∀ other, other ∈ (start registry).entered (calls ++ [(parent, id)]) ↔
        other ∈ (((start registry).visitEach calls).visit parent id).1.completed ∨
          other ∈ (((start registry).visitEach calls).visit parent id).1.failed) ∧
      ((start registry).visitEach calls).completed ⊆
        (((start registry).visitEach calls).visit parent id).1.completed ∧
      ((start registry).visitEach calls).failed ⊆
        (((start registry).visitEach calls).visit parent id).1.failed ∧
      (id ∈ (((start registry).visitEach calls).visit parent id).1.completed ∨
        id ∈ (((start registry).visitEach calls).visit parent id).1.failed) := by
  have hrest := (resting_start.visitEach hnever.indexed hcalls).1
  have hvisit := ((start registry).visitEach calls).visit_spec parent id
  have hindexed := hnever.indexed.of_forget hrest.forget_eq
  obtain ⟨_, hsettles⟩ := hvisit.outcome hnever.indexed hrest.toOver hid
  obtain ⟨_, _, hsettled⟩ := hvisit.rest hnever.indexed hrest hid
  have hend : (start registry).visitEach (calls ++ [(parent, id)]) =
      (((start registry).visitEach calls).visit parent id).1 := visitEach_append ..
  have horderly : (((start registry).visitEach calls).visit parent id).1.Orderly := by
    rw [← hend]
    refine orderly_visitEach hnever fun call hcall => ?_
    rcases List.mem_append.mp hcall with hcall | hcall
    · exact hcalls call hcall
    · exact List.mem_singleton.mp hcall ▸ hid
  refine ⟨horderly, (fst_logEach _ _).trans hend, (logs_entered _ _).nodup, fun other => ?_,
    (completed_of_visit hvisit hindexed).1, fun other => hsettles.mem_failed,
    isSettled_iff.mp ((hsettled id).mpr (.inr .refl))⟩
  rw [mem_entered_iff (hend ▸ horderly.active_eq), hend]

end Run

/-- A type with a derived one, and a type of which the base is unknown with a derived one. -/
def Registry.leafAndLost : Registry :=
  empty.replay
    [.register (.simple ⟨"Root", .unknown⟩), .register (.extending "Leaf" "Root" none),
      .register (.extending "Lost" "Nowhere" none), .register (.extending "Tail" "Lost" none)]

theorem Registry.leafAndLost_neverCompiled : leafAndLost.NeverCompiled :=
  neverCompiled_empty.replay (by decide +kernel)

/-- A visit that fails and one that repeats a part of it, and then a visit that succeeds: the run
enters the four types, each once, and is orderly. -/
theorem Run.visit_orderly_leafAndLost :
    Registry.leafAndLost.NeverCompiled ∧
      (start .leafAndLost).entered [(none, ⟨3⟩), (none, ⟨2⟩), (none, ⟨1⟩)] =
        [⟨3⟩, ⟨2⟩, ⟨1⟩, ⟨0⟩] ∧
      (((start .leafAndLost).visitEach [(none, ⟨3⟩), (none, ⟨2⟩)]).visit none ⟨1⟩).1.completed =
        [⟨1⟩, ⟨0⟩] ∧
      (((start .leafAndLost).visitEach [(none, ⟨3⟩), (none, ⟨2⟩)]).visit none ⟨1⟩).1.Orderly := by
  refine ⟨Registry.leafAndLost_neverCompiled, by decide +kernel, by decide +kernel, ?_⟩
  refine (visit_orderly Registry.leafAndLost_neverCompiled (fun call hcall => ?_) none ?_).1
  · simp only [List.mem_cons, List.not_mem_nil, or_false] at hcall
    rcases hcall with rfl | rfl <;> exact Option.some_ne_none _
  · exact Option.some_ne_none _

end XsdDerivation
