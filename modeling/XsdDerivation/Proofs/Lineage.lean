import XsdDerivation.Ancestry
import XsdDerivation.Proofs.Walk

/-!
# Lineages

What a type offers is read off its lineage. Where the chain of recorded bases does not loop the
lineage of a type is the type followed by the lineage of its base, so that a query follows the
recorded bases one by one and comes to an end.
-/

namespace XsdDerivation.Registry

variable {registry : Registry} {declaration base : Declaration} {id : TypeId}

/-- The declaration of the recorded base, if a base is recorded and is registered. -/
def baseDeclaration? (registry : Registry) (declaration : Declaration) : Option Declaration :=
  declaration.recordedBase?.bind registry.get?

/-- The chain of recorded bases of a declaration does not loop. -/
def ChainEnds (registry : Registry) (declaration : Declaration) : Prop :=
  ∀ id, declaration.recordedBase? = some id →
    ∀ other, Reaches registry.recordedBase? id other → ¬Loops registry.recordedBase? other

/-- A query on the declaration asks for what `asked`, the declaration of its base, offers. -/
def Asks (registry : Registry) (asked declaration : Declaration) : Prop :=
  registry.baseDeclaration? declaration = some asked

theorem recordedBase?_of_get? (hget : registry.get? id = some declaration) :
    registry.recordedBase? id = declaration.recordedBase? := by
  rw [recordedBase?, hget, Option.bind_some]

/-- The bases of a type whose chain does not loop have chains that do not loop. -/
theorem ChainEnds.of_base (hchain : registry.ChainEnds declaration)
    (hbase : registry.baseDeclaration? declaration = some base) : registry.ChainEnds base := by
  obtain ⟨id, hrecorded, hget⟩ := Option.bind_eq_some_iff.mp hbase
  intro next hnext other hreach
  rw [← recordedBase?_of_get? hget] at hnext
  exact hchain id hrecorded other (.head hnext hreach)

/-- Where recorded bases do not loop at all, no chain does. -/
theorem chainEnds_of_not_loops (hloops : ∀ id, ¬Loops registry.recordedBase? id)
    (declaration : Declaration) : registry.ChainEnds declaration :=
  fun _ _ other _ => hloops other

/-- A chain of recorded bases that comes to a type without one does not loop. -/
theorem chainEnds_of_reaches {last : TypeId} (hrecorded : declaration.recordedBase? = some id)
    (hreach : Reaches registry.recordedBase? id last)
    (hstop : registry.recordedBase? last = none) : registry.ChainEnds declaration := by
  intro start hstart other hother hloop
  rw [hrecorded, Option.some.injEq] at hstart
  subst hstart
  rcases hother.total hreach with h | h
  · exact hloop.not_stop h hstop
  · rw [h.eq_of_stop hstop] at hloop
    exact hloop.ne_none hstop

/-- Recursion along the recorded bases of an id is recursion along the declarations. -/
theorem acc_asks_of_get? (hacc : Acc (fun next id => Leads registry.recordedBase? id next) id)
    (hget : registry.get? id = some declaration) : Acc registry.Asks declaration := by
  induction hacc generalizing declaration with
  | intro id _ ih =>
    refine .intro declaration fun asked hasked => ?_
    obtain ⟨next, hrecorded, hnext⟩ := Option.bind_eq_some_iff.mp hasked
    rw [← recordedBase?_of_get? hget] at hrecorded
    exact ih next hrecorded hnext

/-- **Queries end.** A query on a type whose chain of recorded bases does not loop asks for
finitely many bases. -/
theorem ChainEnds.acc (hchain : registry.ChainEnds declaration) :
    Acc registry.Asks declaration := by
  refine .intro declaration fun asked hasked => ?_
  obtain ⟨id, hrecorded, hget⟩ := Option.bind_eq_some_iff.mp hasked
  exact acc_asks_of_get? (acc_of_not_loops lt_size_of_recordedBase? (hchain id hrecorded)) hget

/-- A type without a registered base is alone in its lineage. -/
theorem lineage_of_none (hnone : registry.baseDeclaration? declaration = none) :
    registry.lineage declaration = [declaration] := by
  unfold baseDeclaration? at hnone
  unfold lineage ancestors
  cases hrecorded : declaration.recordedBase? with
  | none => rfl
  | some id =>
    rw [hrecorded, Option.bind_some] at hnone
    have hlast : registry.recordedBase? id = none := by rw [recordedBase?, hnone, Option.bind_none]
    have hpath : registry.recordedPath id = [id] := path_of_none List.not_mem_nil hlast
    simp [hpath, hnone]

/-- The lineage of a type goes on with the lineage of its base. -/
theorem ChainEnds.lineage_eq (hchain : registry.ChainEnds declaration)
    (hbase : registry.baseDeclaration? declaration = some base) :
    registry.lineage declaration = declaration :: registry.lineage base := by
  obtain ⟨id, hrecorded, hget⟩ := Option.bind_eq_some_iff.mp hbase
  rw [lineage, lineage, ancestors, ancestors, hrecorded]
  dsimp only
  rw [← recordedBase?_of_get? hget]
  refine congrArg _ ?_
  cases hnext : registry.recordedBase? id with
  | none =>
    have hpath : registry.recordedPath id = [id] := path_of_none List.not_mem_nil hnext
    simp [hpath, hget]
  | some next =>
    -- The base is not met again, so that the rest of its path does not depend on it.
    have hrest : path registry.size registry.recordedBase? lt_size_of_recordedBase? [id] next =
        registry.recordedPath next := by
      refine path_congr_seen fun other hreach => ?_
      rw [List.mem_singleton]
      refine ⟨?_, fun hmem => absurd hmem List.not_mem_nil⟩
      rintro rfl
      have hloop : Loops registry.recordedBase? other := .head' hnext hreach
      exact absurd hloop (hchain other hrecorded other .refl)
    have hpath : registry.recordedPath id = id :: registry.recordedPath next := by
      rw [← hrest]
      exact path_of_some List.not_mem_nil hnext
    rw [hpath, List.filterMap_cons_some hget]

end XsdDerivation.Registry
