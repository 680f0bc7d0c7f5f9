import Mathlib.Logic.Relation
import XsdDerivation.Path

/-!
# Walks along a partial step

A partial step leads from a type to at most one other type. A walk along it therefore either
stops at a type without a next one or enters a loop. This file relates `path`, which lists the
types of a walk, and `ending`, which says how the walk ends, to reachability by the step.
-/

namespace XsdDerivation

/-- The step leads from `a` to `b`. -/
def Leads (step : TypeId → Option TypeId) (a b : TypeId) : Prop := step a = some b

/-- Some number of steps, perhaps none, leads from `a` to `b`. -/
def Reaches (step : TypeId → Option TypeId) (a b : TypeId) : Prop :=
  Relation.ReflTransGen (Leads step) a b

/-- One or more steps lead from `a` back to `a`. -/
def Loops (step : TypeId → Option TypeId) (a : TypeId) : Prop :=
  Relation.TransGen (Leads step) a a

/-- The paths from `a` and `b` meet. -/
def Meets (step : TypeId → Option TypeId) (a b : TypeId) : Prop :=
  ∃ met, Reaches step a met ∧ Reaches step b met

/-- How a walk ends. -/
inductive Ending where
  /-- The walk stops at this type, which has no next one. -/
  | stop (last : TypeId)
  /-- The walk comes back to this type, the first that it meets again. -/
  | loop (entry : TypeId)
  deriving DecidableEq, Repr

/-- How the walk from `current` ends if it counts the types in `seen` as met. It follows the
recursion of `path`. -/
def ending (size : Nat) (step : TypeId → Option TypeId)
    (hstep : ∀ id next, step id = some next → id.index < size)
    (seen : List TypeId) (current : TypeId) : Ending :=
  if _ : current ∈ seen then .loop current
  else
    match _ : step current with
    | none => .stop current
    | some next => ending size step hstep (current :: seen) next
termination_by unseen size seen
decreasing_by exact unseen_cons_lt (hstep _ _ (by assumption)) (by assumption)

section Reachability

variable {step : TypeId → Option TypeId} {a b c : TypeId}

/-- Of two types that one type reaches, one reaches the other. -/
theorem Reaches.total (hb : Reaches step a b) (hc : Reaches step a c) :
    Reaches step b c ∨ Reaches step c b :=
  Relation.ReflTransGen.total_of_right_unique
    (fun _ _ _ h h' => Option.some.inj (h.symm.trans h')) hb hc

theorem Meets.symm (hmeets : Meets step a b) : Meets step b a := by
  obtain ⟨met, ha, hb⟩ := hmeets
  exact ⟨met, hb, ha⟩

/-- If two paths meet a third they meet each other. -/
theorem Meets.trans (hab : Meets step a b) (hbc : Meets step b c) : Meets step a c := by
  obtain ⟨first, ha, hb⟩ := hab
  obtain ⟨second, hb', hc⟩ := hbc
  rcases hb.total hb' with h | h
  · exact ⟨second, ha.trans h, hc⟩
  · exact ⟨first, ha, hc.trans h⟩

/-- A type without a next one reaches only itself. -/
theorem Reaches.eq_of_stop (hreach : Reaches step a b) (hstop : step a = none) : b = a := by
  rcases Relation.ReflTransGen.cases_head hreach with heq | ⟨next, hnext, _⟩
  · exact heq.symm
  · rw [Leads, hstop] at hnext
    cases hnext

/-- Every type that a looping type reaches leads back to it. -/
theorem Loops.reaches_back (hloop : Loops step a) (hreach : Reaches step a b) :
    Reaches step b a := by
  induction hreach with
  | refl => exact .refl
  | @tail x y _ hxy ih =>
    -- The way back from `x` starts with the step to `y`, or `x` is `a` and the loop does.
    have hback : Relation.TransGen (Leads step) x a := by
      rcases Relation.reflTransGen_iff_eq_or_transGen.mp ih with rfl | h
      · exact hloop
      · exact h
    obtain ⟨z, hxz, hza⟩ := Relation.TransGen.head'_iff.mp hback
    have hzy : z = y := Option.some.inj (hxz.symm.trans hxy)
    exact hzy ▸ hza

/-- Every type that a looping type reaches loops. -/
theorem Loops.of_reaches (hloop : Loops step a) (hreach : Reaches step a b) : Loops step b :=
  Relation.TransGen.trans_right (hloop.reaches_back hreach)
    (Relation.TransGen.trans_left hloop hreach)

/-- A looping type has a next one. -/
theorem Loops.ne_none (hloop : Loops step a) : step a ≠ none := by
  obtain ⟨next, hnext, _⟩ := Relation.TransGen.head'_iff.mp hloop
  intro hnone
  rw [Leads, hnone] at hnext
  cases hnext

/-- A looping type reaches no type at which a walk stops. -/
theorem Loops.not_stop (hloop : Loops step a) (hreach : Reaches step a b) : step b ≠ none :=
  (hloop.of_reaches hreach).ne_none

/-- A step that agrees with another one as far as a walk goes leads along the same walk. -/
theorem Reaches.congr {other : TypeId → Option TypeId} (hreach : Reaches step a b)
    (hstep : ∀ x y, Reaches step a x → step x = some y → other x = some y) :
    Reaches other a b := by
  induction hreach with
  | refl => exact .refl
  | @tail x y hax hxy ih => exact .tail ih (hstep x y hax hxy)

/-- A step that agrees with another one along a loop has the same loop. -/
theorem Loops.congr {other : TypeId → Option TypeId} (hloop : Loops step a)
    (hstep : ∀ x y, Reaches step a x → step x = some y → other x = some y) : Loops other a := by
  obtain ⟨next, hnext, hback⟩ := Relation.TransGen.head'_iff.mp hloop
  refine .head' (hstep a next .refl hnext) (Reaches.congr hback fun x y hx hxy => ?_)
  exact hstep x y (.head hnext hx) hxy

/-- A loop along a step is not left by a step that goes wherever this one goes. -/
theorem Loops.reaches_of_extends {other : TypeId → Option TypeId} (hloop : Loops step a)
    (hextends : ∀ x y, step x = some y → other x = some y) (hreach : Reaches other a b) :
    Reaches step a b := by
  induction hreach with
  | refl => exact .refl
  | @tail x y _ hxy ih =>
    obtain ⟨z, hz⟩ := Option.ne_none_iff_exists'.mp (hloop.not_stop ih)
    have heq : z = y := Option.some.inj ((hextends x z hz).symm.trans hxy)
    exact ih.tail (heq ▸ hz)

end Reachability

section Paths

variable {size : Nat} {step : TypeId → Option TypeId}
  {hstep : ∀ id next, step id = some next → id.index < size}
  {seen : List TypeId} {current next : TypeId}

/-- A walk that starts at a type it has met is over. -/
theorem path_of_mem (hseen : current ∈ seen) : path size step hstep seen current = [] := by
  rw [path, dif_pos hseen]

/-- A walk that starts at a type without a next one consists of this type. -/
theorem path_of_none (hnew : current ∉ seen) (hnone : step current = none) :
    path size step hstep seen current = [current] := by
  rw [path, dif_neg hnew]
  split
  · rfl
  · simp_all

/-- A walk goes on with the walk from the next type. -/
theorem path_of_some (hnew : current ∉ seen) (hnext : step current = some next) :
    path size step hstep seen current =
      current :: path size step hstep (current :: seen) next := by
  rw [path, dif_neg hnew]
  split
  · simp_all
  · rename_i other hother
    rw [Option.some.inj (hnext.symm.trans hother)]

/-- A walk that starts at a type it has met ends in a loop. -/
theorem ending_of_mem (hseen : current ∈ seen) :
    ending size step hstep seen current = .loop current := by
  rw [ending, dif_pos hseen]

/-- A walk that starts at a type without a next one stops there. -/
theorem ending_of_none (hnew : current ∉ seen) (hnone : step current = none) :
    ending size step hstep seen current = .stop current := by
  rw [ending, dif_neg hnew]
  split
  · rfl
  · simp_all

/-- A walk ends as the walk from the next type does. -/
theorem ending_of_some (hnew : current ∉ seen) (hnext : step current = some next) :
    ending size step hstep seen current = ending size step hstep (current :: seen) next := by
  rw [ending, dif_neg hnew]
  split
  · simp_all
  · rename_i other hother
    rw [Option.some.inj (hnext.symm.trans hother)]

/-- How a walk ends depends on where the step leads only. -/
theorem ending_congr {size' : Nat} {step' : TypeId → Option TypeId}
    {hstep' : ∀ id next, step' id = some next → id.index < size'} (hsize : size = size')
    (heq : step = step') :
    ending size step hstep seen current = ending size' step' hstep' seen current := by
  subst hsize
  subst heq
  rfl

/-- Induction along a walk: it is over, or it stops here, or it goes on with the next type. -/
@[elab_as_elim]
theorem walk_induction (hstep : ∀ id next, step id = some next → id.index < size)
    {motive : List TypeId → TypeId → Prop}
    (met : ∀ seen current, current ∈ seen → motive seen current)
    (stop : ∀ seen current, current ∉ seen → step current = none → motive seen current)
    (next : ∀ seen current next, current ∉ seen → step current = some next →
      motive (current :: seen) next → motive seen current)
    (seen : List TypeId) (current : TypeId) : motive seen current := by
  fun_induction ending size step hstep seen current with
  | case1 seen current hseen => exact met seen current hseen
  | case2 seen current hnew hnone => exact stop seen current hnew hnone
  | case3 seen current hnew following hnext ih => exact next seen current following hnew hnext ih

/-- A walk depends on those types only that it could meet again. -/
theorem path_congr_seen {seen' : List TypeId}
    (hseen : ∀ id, Reaches step current id → (id ∈ seen ↔ id ∈ seen')) :
    path size step hstep seen current = path size step hstep seen' current := by
  induction seen, current using walk_induction hstep generalizing seen' with
  | met seen current hmet => rw [path_of_mem hmet, path_of_mem ((hseen current .refl).mp hmet)]
  | stop seen current hnew hnone =>
    rw [path_of_none hnew hnone,
      path_of_none (fun hmet => hnew ((hseen current .refl).mpr hmet)) hnone]
  | next seen current next hnew hnext ih =>
    rw [path_of_some hnew hnext,
      path_of_some (fun hmet => hnew ((hseen current .refl).mpr hmet)) hnext]
    refine congrArg _ (ih fun id hreach => ?_)
    rw [List.mem_cons, List.mem_cons, hseen id (.head hnext hreach)]

/-- Renaming the types of a walk, all of them differently, renames the path. -/
theorem path_map {size' : Nat} {step' : TypeId → Option TypeId}
    {hstep' : ∀ id next, step' id = some next → id.index < size'} {rename : TypeId → TypeId}
    {seen' : List TypeId}
    (hleads : ∀ id, Reaches step current id → step' (rename id) = (step id).map rename)
    (hdiffer : ∀ id other, Reaches step current id → Reaches step current other →
      rename id = rename other → id = other)
    (hseen : ∀ id, Reaches step current id → (rename id ∈ seen' ↔ id ∈ seen)) :
    path size' step' hstep' seen' (rename current) =
      (path size step hstep seen current).map rename := by
  induction seen, current using walk_induction hstep generalizing seen' with
  | met seen current hmet =>
    rw [path_of_mem hmet, path_of_mem ((hseen current .refl).mpr hmet), List.map_nil]
  | stop seen current hnew hnone =>
    have hstop : step' (rename current) = none := by
      rw [hleads current .refl, hnone, Option.map_none]
    have hnew' := fun hmet => hnew ((hseen current .refl).mp hmet)
    rw [path_of_none hnew hnone, path_of_none hnew' hstop, List.map_cons, List.map_nil]
  | next seen current next hnew hnext ih =>
    have hgoes : step' (rename current) = some (rename next) := by
      rw [hleads current .refl, hnext, Option.map_some]
    have hnew' := fun hmet => hnew ((hseen current .refl).mp hmet)
    rw [path_of_some hnew hnext, path_of_some hnew' hgoes, List.map_cons]
    refine congrArg _ (ih (fun id hreach => hleads id (.head hnext hreach))
      (fun id other hid hother => hdiffer id other (.head hnext hid) (.head hnext hother))
      fun id hreach => ?_)
    have hfirst : rename id = rename current ↔ id = current :=
      ⟨hdiffer id current (.head hnext hreach) .refl, congrArg rename⟩
    rw [List.mem_cons, List.mem_cons, hfirst, hseen id (.head hnext hreach)]

/-- A walk depends on the step only as far as it goes. -/
theorem path_congr {size' : Nat} {step' : TypeId → Option TypeId}
    {hstep' : ∀ id next, step' id = some next → id.index < size'}
    (hleads : ∀ id, Reaches step current id → step' id = step id) :
    path size' step' hstep' seen current = path size step hstep seen current := by
  calc path size' step' hstep' seen current
      = (path size step hstep seen current).map fun id => id := by
        refine path_map (fun id hreach => ?_) (fun _ _ _ _ heq => heq) fun _ _ => Iff.rfl
        rw [hleads id hreach, Option.map_id']
    _ = path size step hstep seen current := List.map_id' _

/-- Only types that are reached stand on a walk. -/
theorem reaches_of_mem_path {id : TypeId} (hmem : id ∈ path size step hstep seen current) :
    Reaches step current id := by
  induction seen, current using walk_induction hstep with
  | met seen current hseen => simp [path_of_mem hseen] at hmem
  | stop seen current hnew hnone =>
    rw [path_of_none hnew hnone, List.mem_singleton] at hmem
    exact hmem ▸ .refl
  | next seen current next hnew hnext ih =>
    rw [path_of_some hnew hnext, List.mem_cons] at hmem
    rcases hmem with rfl | hmem
    · exact .refl
    · exact .head hnext (ih hmem)

/-- No type of a walk was met before. -/
theorem not_mem_seen_of_mem_path {id : TypeId}
    (hmem : id ∈ path size step hstep seen current) : id ∉ seen := by
  induction seen, current using walk_induction hstep with
  | met seen current hseen => simp [path_of_mem hseen] at hmem
  | stop seen current hnew hnone =>
    rw [path_of_none hnew hnone, List.mem_singleton] at hmem
    exact hmem ▸ hnew
  | next seen current next hnew hnext ih =>
    rw [path_of_some hnew hnext, List.mem_cons] at hmem
    rcases hmem with rfl | hmem
    · exact hnew
    · exact fun hseen => ih hmem (List.mem_cons_of_mem _ hseen)

/-- A walk meets the type at which it starts. -/
theorem mem_path_or_mem_seen : current ∈ path size step hstep seen current ∨ current ∈ seen := by
  by_cases hseen : current ∈ seen
  · exact .inr hseen
  · rw [path, dif_neg hseen]
    exact .inl (List.mem_cons_self ..)

/-- The type after one of a walk is on the walk, too, or was met before. -/
theorem mem_path_of_step {id following : TypeId}
    (hmem : id ∈ path size step hstep seen current) (hnext : step id = some following) :
    following ∈ path size step hstep seen current ∨ following ∈ seen := by
  induction seen, current using walk_induction hstep with
  | met seen current hseen => simp [path_of_mem hseen] at hmem
  | stop seen current hnew hnone =>
    rw [path_of_none hnew hnone, List.mem_singleton] at hmem
    rw [hmem, hnone] at hnext
    cases hnext
  | next seen current next hnew hcurrent ih =>
    rw [path_of_some hnew hcurrent] at hmem ⊢
    have hsplit : following ∈ path size step hstep (current :: seen) next ∨
        following ∈ current :: seen := by
      rcases List.mem_cons.mp hmem with rfl | hmem
      · have heq : next = following := Option.some.inj (hcurrent.symm.trans hnext)
        exact heq ▸ mem_path_or_mem_seen
      · exact ih hmem
    grind

/-- The same holds of the types of a walk before the first without a property. -/
theorem mem_takeWhile_path_of_step {keep : TypeId → Bool} {id following : TypeId}
    (hmem : id ∈ (path size step hstep seen current).takeWhile keep)
    (hnext : step id = some following) :
    following ∈ (path size step hstep seen current).takeWhile keep ∨ following ∈ seen ∨
      keep following = false := by
  induction seen, current using walk_induction hstep with
  | met seen current hseen => simp [path_of_mem hseen] at hmem
  | stop seen current hnew hnone =>
    have heq : id = current := by
      simpa [path_of_none hnew hnone] using (List.takeWhile_sublist _).subset hmem
    rw [heq, hnone] at hnext
    cases hnext
  | next seen current next hnew hcurrent ih =>
    rw [path_of_some hnew hcurrent] at hmem ⊢
    have hkeep : keep current = true := by
      cases h : keep current with
      | true => rfl
      | false => simp [h] at hmem
    simp only [List.takeWhile_cons, hkeep, if_true] at hmem ⊢
    rcases List.mem_cons.mp hmem with rfl | hmem
    · have heq : next = following := Option.some.inj (hcurrent.symm.trans hnext)
      subst heq
      cases hnextKeep : keep next with
      | false => exact .inr (.inr rfl)
      | true =>
        by_cases hmet : next ∈ id :: seen
        · rcases List.mem_cons.mp hmet with rfl | hmet
          · exact .inl (List.mem_cons_self ..)
          · exact .inr (.inl hmet)
        · rw [path, dif_neg hmet, List.takeWhile_cons, hnextKeep, if_pos rfl]
          exact .inl (List.mem_cons_of_mem _ (List.mem_cons_self ..))
    · rcases ih hmem with h | h | h
      · exact .inl (List.mem_cons_of_mem _ h)
      · rcases List.mem_cons.mp h with rfl | h
        · exact .inl (List.mem_cons_self ..)
        · exact .inr (.inl h)
      · exact .inr (.inr h)

/-- From the start, the types of a walk are those that are reached. -/
theorem mem_path_iff {id : TypeId} :
    id ∈ path size step hstep [] current ↔ Reaches step current id := by
  refine ⟨reaches_of_mem_path, fun hreach => ?_⟩
  induction hreach with
  | refl =>
    have hstart : current ∈ path size step hstep [] current ∨ current ∈ [] := mem_path_or_mem_seen
    simpa using hstart
  | tail _ hnext ih => simpa using mem_path_of_step ih hnext

/-- Where a walk stops there is no next type. -/
theorem reaches_of_ending_stop {last : TypeId}
    (hend : ending size step hstep seen current = .stop last) :
    Reaches step current last ∧ step last = none := by
  induction seen, current using walk_induction hstep with
  | met seen current hseen => simp [ending_of_mem hseen] at hend
  | stop seen current hnew hnone =>
    rw [ending_of_none hnew hnone, Ending.stop.injEq] at hend
    exact hend ▸ ⟨.refl, hnone⟩
  | next seen current next hnew hnext ih =>
    rw [ending_of_some hnew hnext] at hend
    exact ⟨.head hnext (ih hend).1, (ih hend).2⟩

/-- The type at which a walk enters a loop leads back to itself, unless it was met before. -/
theorem reaches_of_ending_loop {entry : TypeId}
    (hend : ending size step hstep seen current = .loop entry) :
    Reaches step current entry ∧ (entry ∈ seen ∨ Loops step entry) := by
  induction seen, current using walk_induction hstep with
  | met seen current hseen =>
    rw [ending_of_mem hseen, Ending.loop.injEq] at hend
    exact hend ▸ ⟨.refl, .inl hseen⟩
  | stop seen current hnew hnone => simp [ending_of_none hnew hnone] at hend
  | next seen current next hnew hnext ih =>
    rw [ending_of_some hnew hnext] at hend
    obtain ⟨hreach, hmet⟩ := ih hend
    refine ⟨.head hnext hreach, ?_⟩
    rcases hmet with hmem | hloop
    · rcases List.mem_cons.mp hmem with rfl | hmem
      · exact .inr (.head' hnext hreach)
      · exact .inl hmem
    · exact .inr hloop

/-- From the start, a walk enters its loop at a type that leads back to itself. -/
theorem loops_of_ending_loop {entry : TypeId}
    (hend : ending size step hstep [] current = .loop entry) :
    Reaches step current entry ∧ Loops step entry := by
  obtain ⟨hreach, hmet⟩ := reaches_of_ending_loop hend
  exact ⟨hreach, hmet.resolve_left List.not_mem_nil⟩

/-- A walk from the start stops at the one type without a next type that it reaches. -/
theorem ending_eq_stop_iff {last : TypeId} :
    ending size step hstep [] current = .stop last ↔
      Reaches step current last ∧ step last = none := by
  refine ⟨reaches_of_ending_stop, fun ⟨hreach, hnone⟩ => ?_⟩
  cases hend : ending size step hstep [] current with
  | stop other =>
    obtain ⟨hother, hstop⟩ := reaches_of_ending_stop hend
    rcases hother.total hreach with h | h
    · rw [h.eq_of_stop hstop]
    · rw [h.eq_of_stop hnone]
  | loop entry =>
    obtain ⟨hentry, hloop⟩ := loops_of_ending_loop hend
    rcases hentry.total hreach with h | h
    · exact absurd hnone (hloop.not_stop h)
    · rw [h.eq_of_stop hnone] at hloop
      exact absurd hnone hloop.ne_none

/-- A walk that reaches a loop ends in this loop. -/
theorem exists_ending_eq_loop {id : TypeId} (hreach : Reaches step current id)
    (hloop : Loops step id) :
    ∃ entry, ending size step hstep [] current = .loop entry ∧ Reaches step id entry := by
  cases hend : ending size step hstep [] current with
  | stop last =>
    obtain ⟨hlast, hstop⟩ := reaches_of_ending_stop hend
    rcases hreach.total hlast with h | h
    · exact absurd hstop (hloop.not_stop h)
    · rw [h.eq_of_stop hstop] at hloop
      exact absurd hstop hloop.ne_none
  | loop entry =>
    obtain ⟨hentry, hentryLoop⟩ := loops_of_ending_loop hend
    refine ⟨entry, rfl, ?_⟩
    rcases hreach.total hentry with h | h
    · exact h
    · exact hentryLoop.reaches_back h

/-- Recursion along the step ends where a walk stops. -/
theorem acc_of_ending_stop {last : TypeId}
    (hend : ending size step hstep seen current = .stop last) :
    Acc (fun next id => Leads step id next) current := by
  induction seen, current using walk_induction hstep with
  | met seen current hseen => simp [ending_of_mem hseen] at hend
  | stop seen current hnew hnone =>
    refine .intro current fun next hnext => ?_
    rw [Leads, hnone] at hnext
    cases hnext
  | next seen current next hnew hnext ih =>
    rw [ending_of_some hnew hnext] at hend
    refine .intro current fun other hother => ?_
    have heq : next = other := Option.some.inj (hnext.symm.trans hother)
    exact heq ▸ ih hend

/-- Recursion along the step ends at every type that does not reach a loop. -/
theorem acc_of_not_loops (hstep : ∀ id next, step id = some next → id.index < size)
    (hloops : ∀ id, Reaches step current id → ¬Loops step id) :
    Acc (fun next id => Leads step id next) current := by
  cases hend : ending size step hstep [] current with
  | stop last => exact acc_of_ending_stop hend
  | loop entry =>
    obtain ⟨hreach, hloop⟩ := loops_of_ending_loop hend
    exact absurd hloop (hloops entry hreach)

/-- The type at which a walk enters its loop stands on the walk, unless it was met before. -/
theorem mem_path_of_ending_loop {entry : TypeId}
    (hend : ending size step hstep seen current = .loop entry) :
    entry ∈ path size step hstep seen current ∨ entry ∈ seen := by
  induction seen, current using walk_induction hstep with
  | met seen current hseen =>
    rw [ending_of_mem hseen, Ending.loop.injEq] at hend
    exact .inr (hend ▸ hseen)
  | stop seen current hnew hnone => simp [ending_of_none hnew hnone] at hend
  | next seen current next hnew hnext ih =>
    rw [ending_of_some hnew hnext] at hend
    rw [path_of_some hnew hnext]
    have hmem := ih hend
    simp only [List.mem_cons] at hmem ⊢
    grind

/-- A walk that ends in a loop leaves its types towards the entry of the loop only. -/
theorem step_of_ending_loop {entry id following : TypeId}
    (hend : ending size step hstep seen current = .loop entry)
    (hmem : id ∈ path size step hstep seen current) (hfollowing : step id = some following) :
    following ∈ path size step hstep seen current ∨ following = entry := by
  induction seen, current using walk_induction hstep with
  | met seen current hseen => simp [path_of_mem hseen] at hmem
  | stop seen current hnew hnone => simp [ending_of_none hnew hnone] at hend
  | next seen current next hnew hnext ih =>
    rw [ending_of_some hnew hnext] at hend
    rw [path_of_some hnew hnext] at hmem ⊢
    rcases List.mem_cons.mp hmem with rfl | hmem
    · have heq : next = following := Option.some.inj (hnext.symm.trans hfollowing)
      subst heq
      by_cases hmet : next ∈ id :: seen
      · rw [ending_of_mem hmet, Ending.loop.injEq] at hend
        exact .inr hend
      · exact .inl (List.mem_cons_of_mem _ (mem_path_or_mem_seen.resolve_right hmet))
    · exact (ih hend hmem).imp_left (List.mem_cons_of_mem _)

/-- A walk enters its loop at the first type that loops: no type before leads back to itself. -/
theorem path_of_ending_loop {entry : TypeId}
    (hend : ending size step hstep seen current = .loop entry) (hentry : entry ∉ seen) :
    ∃ lead cycle, path size step hstep seen current = lead ++ entry :: cycle ∧
      ∀ id ∈ lead, ¬Loops step id := by
  induction seen, current using walk_induction hstep with
  | met seen current hseen =>
    rw [ending_of_mem hseen, Ending.loop.injEq] at hend
    exact absurd (hend ▸ hseen) hentry
  | stop seen current hnew hnone => simp [ending_of_none hnew hnone] at hend
  | next seen current next hnew hnext ih =>
    rw [ending_of_some hnew hnext] at hend
    rw [path_of_some hnew hnext]
    by_cases hcurrent : entry = current
    · exact ⟨[], _, by rw [hcurrent]; rfl, by simp⟩
    · obtain ⟨lead, cycle, hpath, hlead⟩ := ih hend (by simp [hcurrent, hentry])
      refine ⟨current :: lead, cycle, by rw [hpath]; rfl, fun id hid => ?_⟩
      rcases List.mem_cons.mp hid with rfl | hid
      · -- The walk from the entry stays behind the start, so that it does not lead back there.
        intro hloop
        have hreach := (reaches_of_ending_loop hend).1
        have hbehind (other : TypeId) (hother : Reaches step entry other) :
            other ∈ path size step hstep (id :: seen) next := by
          have hmem : entry ∈ path size step hstep (id :: seen) next :=
            (mem_path_of_ending_loop hend).resolve_right (by simp [hcurrent, hentry])
          induction hother with
          | refl => exact hmem
          | tail _ hfollowing ih =>
            exact (step_of_ending_loop hend ih hfollowing).elim (fun h => h) (fun h => h ▸ hmem)
        have hback := hbehind id (hloop.reaches_back (.head hnext hreach))
        exact not_mem_seen_of_mem_path hback (List.mem_cons_self ..)
      · exact hlead id hid

/-- A walk along another step that goes wherever this one goes ends in the same loop. -/
theorem ending_loop_of_extends {other : TypeId → Option TypeId}
    {hother : ∀ id next, other id = some next → id.index < size} {entry : TypeId}
    (hextends : ∀ id next, step id = some next → other id = some next)
    (hend : ending size step hstep seen current = .loop entry) :
    ending size other hother seen current = .loop entry := by
  induction seen, current using walk_induction hstep with
  | met seen current hseen =>
    rw [ending_of_mem hseen] at hend ⊢
    exact hend
  | stop seen current hnew hnone => simp [ending_of_none hnew hnone] at hend
  | next seen current next hnew hnext ih =>
    rw [ending_of_some hnew hnext] at hend
    rw [ending_of_some hnew (hextends current next hnext)]
    exact ih hend

/-- Two walks meet exactly if they end alike: they stop at the same type, or one enters its loop
at a type of the loop of the other. -/
theorem meets_iff {other : TypeId} :
    Meets step current other ↔
      (∃ last, ending size step hstep [] current = .stop last ∧
        ending size step hstep [] other = .stop last) ∨
      ∃ entry entry', ending size step hstep [] current = .loop entry ∧
        ending size step hstep [] other = .loop entry' ∧ Reaches step entry entry' := by
  constructor
  · rintro ⟨met, hcurrent, hother⟩
    cases hend : ending size step hstep [] current with
    | stop last =>
      obtain ⟨hlast, hstop⟩ := reaches_of_ending_stop hend
      have hmet : Reaches step met last := by
        rcases hcurrent.total hlast with h | h
        · exact h
        · rw [h.eq_of_stop hstop]
          exact .refl
      exact .inl ⟨last, rfl, ending_eq_stop_iff.mpr ⟨hother.trans hmet, hstop⟩⟩
    | loop entry =>
      obtain ⟨hentry, hloop⟩ := loops_of_ending_loop hend
      have hmet : Reaches step met entry := by
        rcases hcurrent.total hentry with h | h
        · exact h
        · exact hloop.reaches_back h
      obtain ⟨entry', hend', hreach⟩ := exists_ending_eq_loop (hother.trans hmet) hloop
      exact .inr ⟨entry, entry', rfl, hend', hreach⟩
  · rintro (⟨last, hend, hend'⟩ | ⟨entry, entry', hend, hend', hreach⟩)
    · exact ⟨last, (reaches_of_ending_stop hend).1, (reaches_of_ending_stop hend').1⟩
    · exact ⟨entry', (reaches_of_ending_loop hend).1.trans hreach,
        (reaches_of_ending_loop hend').1⟩

end Paths

end XsdDerivation
