import Mathlib.Data.List.Nodup
import XsdDerivation.Ancestry
import XsdDerivation.Proofs.Declared
import XsdDerivation.Proofs.Walk

/-!
# Base chains

The base chain of a type follows its recorded bases one by one until there is none or one that has
been met. Whatever is recorded, loops and ids without a type included, it is found after as many
rounds as it has members, and these are not more than there are types.
-/

namespace XsdDerivation

/-- The type to which this many steps lead, if the step leads on so often. -/
def afterSteps (step : TypeId → Option TypeId) (start : TypeId) : Nat → Option TypeId
  | 0 => some start
  | count + 1 => (afterSteps step start count).bind step

section Steps

variable {size : Nat} {step : TypeId → Option TypeId}
  {hstep : ∀ id next, step id = some next → id.index < size}
  {seen : List TypeId} {current next : TypeId} {count : Nat}

theorem afterSteps_succ_of_some (hnext : step current = some next) (count : Nat) :
    afterSteps step current (count + 1) = afterSteps step next count := by
  induction count with
  | zero => exact hnext
  | succ count ih => rw [afterSteps, ih, afterSteps]

/-- A walk lists the types to which the steps lead. -/
theorem getElem?_path (hlt : count < (path size step hstep seen current).length) :
    (path size step hstep seen current)[count]? = afterSteps step current count := by
  induction seen, current using walk_induction hstep generalizing count with
  | met seen current hseen => simp [path_of_mem hseen] at hlt
  | stop seen current hnew hnone =>
    rw [path_of_none hnew hnone, List.length_singleton, Nat.lt_one_iff] at hlt
    rw [path_of_none hnew hnone, hlt]
    rfl
  | next seen current next hnew hnext ih =>
    rw [path_of_some hnew hnext] at hlt ⊢
    cases count with
    | zero => rfl
    | succ count =>
      rw [List.getElem?_cons_succ, afterSteps_succ_of_some hnext]
      exact ih (Nat.lt_of_succ_lt_succ hlt)

/-- Where a walk is over the steps lead to no further type or to one that was met. -/
theorem mem_of_afterSteps_length_path {id : TypeId}
    (hafter : afterSteps step current (path size step hstep seen current).length = some id) :
    id ∈ path size step hstep seen current ∨ id ∈ seen := by
  induction seen, current using walk_induction hstep with
  | met seen current hseen =>
    rw [path_of_mem hseen, List.length_nil, afterSteps, Option.some.injEq] at hafter
    exact .inr (hafter ▸ hseen)
  | stop seen current hnew hnone =>
    have hone : afterSteps step current 1 = step current := rfl
    rw [path_of_none hnew hnone, List.length_singleton, hone, hnone] at hafter
    cases hafter
  | next seen current next hnew hnext ih =>
    rw [path_of_some hnew hnext] at hafter ⊢
    rw [List.length_cons, afterSteps_succ_of_some hnext] at hafter
    have hmem := ih hafter
    simp only [List.mem_cons] at hmem ⊢
    grind

/-- A walk meets no type twice. -/
theorem nodup_path : (path size step hstep seen current).Nodup := by
  induction seen, current using walk_induction hstep with
  | met seen current hseen =>
    rw [path_of_mem hseen]
    exact .nil
  | stop seen current hnew hnone =>
    rw [path_of_none hnew hnone]
    exact List.nodup_singleton current
  | next seen current next hnew hnext ih =>
    rw [path_of_some hnew hnext]
    exact List.nodup_cons.mpr
      ⟨fun hmem => not_mem_seen_of_mem_path hmem (List.mem_cons_self ..), ih⟩

/-- At first no id has been seen. -/
theorem unseen_nil : unseen size [] = size := by
  rw [unseen, List.filter_eq_self.mpr fun _ _ => by simp, List.length_range]

/-- A walk passes types that were not seen before, and the last one need not be registered. -/
theorem length_path_le : (path size step hstep seen current).length ≤ unseen size seen + 1 := by
  induction seen, current using walk_induction hstep with
  | met seen current hseen => simp [path_of_mem hseen]
  | stop seen current hnew hnone => simp [path_of_none hnew hnone]
  | next seen current next hnew hnext ih =>
    have hless := unseen_cons_lt (hstep current next hnext) hnew
    rw [path_of_some hnew hnext, List.length_cons]
    omega

end Steps

namespace Registry

variable {registry : Registry} {id : TypeId} {chain other : List TypeId} {count : Nat}

/-- The list follows the recorded bases of a type as far as no type is met again. -/
structure IsBaseChain (registry : Registry) (id : TypeId) (chain : List TypeId) : Prop where
  /-- The members are the recorded base, the base recorded for that one, and so on. -/
  follows : ∀ count < chain.length,
    chain[count]? = afterSteps registry.recordedBase? id (count + 1)
  /-- No type stands in the list twice, and the type itself does not stand there. -/
  nodup : (id :: chain).Nodup
  /-- The list ends only where no base is recorded or where a type is met again. -/
  stops : ∀ base, afterSteps registry.recordedBase? id (chain.length + 1) = some base →
    base ∈ id :: chain

/-- The path of a type consists of the type and its base chain. -/
theorem recordedPath_eq_cons (registry : Registry) (id : TypeId) :
    registry.recordedPath id = id :: registry.baseChain id := by
  unfold baseChain recordedPath
  rw [path, dif_neg List.not_mem_nil]
  rfl

theorem isBaseChain_baseChain (registry : Registry) (id : TypeId) :
    registry.IsBaseChain id (registry.baseChain id) := by
  have hpath := registry.recordedPath_eq_cons id
  refine ⟨fun count hlt => ?_, ?_, fun base hbase => ?_⟩
  · have hmember : (registry.recordedPath id)[count + 1]? =
        afterSteps registry.recordedBase? id (count + 1) := by
      refine getElem?_path ?_
      change count + 1 < (registry.recordedPath id).length
      rw [hpath]
      exact Nat.succ_lt_succ hlt
    rwa [hpath, List.getElem?_cons_succ] at hmember
  · rw [← hpath]
    exact nodup_path
  · rw [← List.length_cons, ← hpath] at hbase
    rw [← hpath]
    exact (mem_of_afterSteps_length_path hbase).resolve_right List.not_mem_nil

/-- Each member is the base to which so many steps lead. -/
theorem IsBaseChain.afterSteps_eq (hchain : registry.IsBaseChain id chain)
    (hlt : count < chain.length) :
    afterSteps registry.recordedBase? id (count + 1) = some chain[count] := by
  rw [← hchain.follows count hlt, List.getElem?_eq_getElem hlt]

/-- No member of the list is the type itself or stands before in the list. -/
theorem IsBaseChain.getElem_not_mem (hchain : registry.IsBaseChain id chain)
    (hlt : count < chain.length) : chain[count] ∉ id :: chain.take count := by
  have hnodup := hchain.nodup
  rw [← List.take_append_drop count chain, List.drop_eq_getElem_cons hlt,
    ← List.cons_append] at hnodup
  exact fun hmem => (List.nodup_append.mp hnodup).2.2 _ hmem _ (List.mem_cons_self ..) rfl

/-- Of two lists that follow the bases of a type one goes on as the other, and not further. -/
theorem IsBaseChain.length_le (hchain : registry.IsBaseChain id chain)
    (hother : registry.IsBaseChain id other) : other.length ≤ chain.length := by
  by_contra hlt
  rw [Nat.not_le] at hlt
  -- The first member of the longer list that the other lacks has been met before.
  have hmet := hchain.stops other[chain.length] (hother.afterSteps_eq hlt)
  have htake : chain = other.take chain.length := by
    refine List.ext_getElem? fun count => ?_
    rw [List.getElem?_take]
    split
    · rename_i hcount
      rw [hchain.follows count hcount, hother.follows count (Nat.lt_trans hcount hlt)]
    · rename_i hcount
      exact List.getElem?_eq_none (Nat.not_lt.mp hcount)
  refine hother.getElem_not_mem hlt ?_
  rw [← htake]
  exact hmet

/-- There is one list that follows the bases of a type. -/
theorem IsBaseChain.unique (hchain : registry.IsBaseChain id chain)
    (hother : registry.IsBaseChain id other) : chain = other := by
  have hlength : chain.length = other.length :=
    Nat.le_antisymm (hother.length_le hchain) (hchain.length_le hother)
  refine List.ext_getElem? fun count => ?_
  by_cases hlt : count < chain.length
  · rw [hchain.follows count hlt, hother.follows count (hlength ▸ hlt)]
  · rw [List.getElem?_eq_none (Nat.not_lt.mp hlt),
      List.getElem?_eq_none (Nat.not_lt.mp (hlength ▸ hlt))]

/-! ### Climbing round by round -/

/-- One round of a climb along the recorded bases of a type: the next base is passed. There is no
further round if no base is recorded, or one that has been passed or is the type itself. -/
def climb? (registry : Registry) (id : TypeId) (passed : List TypeId) : Option (List TypeId) :=
  (registry.recordedBase? (passed.getLastD id)).bind fun base =>
    if base ∈ id :: passed then none else some (passed ++ [base])

/-- What has been passed after this many rounds, if there are so many. -/
def climbed? (registry : Registry) (id : TypeId) : Nat → Option (List TypeId)
  | 0 => some []
  | count + 1 => (registry.climbed? id count).bind (registry.climb? id)

/-- The base that the next round considers is the next one of the type. -/
theorem IsBaseChain.recordedBase?_getLastD (hchain : registry.IsBaseChain id chain)
    (hle : count ≤ chain.length) :
    registry.recordedBase? ((chain.take count).getLastD id) =
      afterSteps registry.recordedBase? id (count + 1) := by
  cases count with
  | zero => rfl
  | succ count =>
    rw [← List.take_append_getElem hle, List.getLastD_concat, afterSteps,
      hchain.afterSteps_eq hle, Option.bind_some]

/-- Every round passes one member more. -/
theorem IsBaseChain.climbed?_eq (hchain : registry.IsBaseChain id chain)
    (hle : count ≤ chain.length) : registry.climbed? id count = some (chain.take count) := by
  induction count with
  | zero => rfl
  | succ count ih =>
    rw [climbed?, ih (Nat.le_of_succ_le hle), Option.bind_some, climb?,
      hchain.recordedBase?_getLastD (Nat.le_of_succ_le hle), hchain.afterSteps_eq hle,
      Option.bind_some, if_neg (hchain.getElem_not_mem hle), List.take_append_getElem hle]

/-- There is no round after the last member has been passed. -/
theorem IsBaseChain.climb?_eq_none (hchain : registry.IsBaseChain id chain) :
    registry.climb? id chain = none := by
  have hnext := hchain.recordedBase?_getLastD (Nat.le_refl chain.length)
  rw [List.take_length] at hnext
  rw [climb?, hnext]
  cases hbase : afterSteps registry.recordedBase? id (chain.length + 1) with
  | none => rfl
  | some base => rw [Option.bind_some, if_pos (hchain.stops base hbase)]

/-- **Base chains are found in finitely many rounds.** In every registry the base chain of an id is
the one list that follows the recorded bases as far as no type is met again. A climb has passed it
after as many rounds as it has members, and there is no further round. It neither repeats a type nor
contains the id itself, and it has at most as many members as there are types. -/
theorem baseChain_climbed (registry : Registry) (id : TypeId) :
    (∀ chain, registry.IsBaseChain id chain ↔ chain = registry.baseChain id) ∧
      registry.climbed? id (registry.baseChain id).length = some (registry.baseChain id) ∧
      registry.climb? id (registry.baseChain id) = none ∧
      (registry.baseChain id).Nodup ∧ id ∉ registry.baseChain id ∧
      (registry.baseChain id).length ≤ registry.size := by
  have hchain := registry.isBaseChain_baseChain id
  obtain ⟨hself, hnodup⟩ := List.nodup_cons.mp hchain.nodup
  refine ⟨fun chain => ⟨fun hother => hother.unique hchain, fun heq => heq ▸ hchain⟩, ?_,
    hchain.climb?_eq_none, hnodup, hself, ?_⟩
  · rw [hchain.climbed?_eq (Nat.le_refl _), List.take_length]
  · have hlength : (registry.recordedPath id).length ≤ unseen registry.size [] + 1 :=
      length_path_le
    rw [unseen_nil, recordedPath_eq_cons] at hlength
    exact Nat.le_of_succ_le_succ hlength

/-- A type that extends one of two types which extend each other, one that extends itself, and one
of which the recorded base is not registered. -/
def tangledBases : Registry :=
  [("Tail", 1), ("First", 2), ("Second", 1), ("Own", 3), ("Lost", 9)].foldl
    (fun registry (name, base) => registry.append ⟨"", name⟩
      ((Declaration.extending name "" none).recordBase ⟨base⟩)) empty

/-- Every chain ends before it repeats a type, or with the base that is not registered. -/
theorem baseChain_climbed_tangledBases :
    tangledBases.ids.map tangledBases.baseChain = [[⟨1⟩, ⟨2⟩], [⟨2⟩], [⟨1⟩], [], [⟨9⟩]] ∧
      tangledBases.climbed? ⟨0⟩ 2 = some [⟨1⟩, ⟨2⟩] ∧ tangledBases.climb? ⟨0⟩ [⟨1⟩, ⟨2⟩] = none ∧
      tangledBases.IsBaseChain ⟨4⟩ [⟨9⟩] := by
  have htail : tangledBases.baseChain ⟨0⟩ = [⟨1⟩, ⟨2⟩] := by decide +kernel
  have hlost : tangledBases.baseChain ⟨4⟩ = [⟨9⟩] := by decide +kernel
  obtain ⟨-, hclimbed, hdone, -⟩ := baseChain_climbed tangledBases ⟨0⟩
  rw [htail] at hclimbed hdone
  exact ⟨by decide +kernel, hclimbed, hdone,
    ((baseChain_climbed tangledBases ⟨4⟩).1 [⟨9⟩]).mpr hlost.symm⟩

end Registry

end XsdDerivation
