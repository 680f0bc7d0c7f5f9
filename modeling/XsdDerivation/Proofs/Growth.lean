import XsdDerivation.Proofs.Filling
import XsdDerivation.Proofs.Grounded

/-!
# What growth keeps

A type without a fault keeps its bases and stays without a fault while a registry grows, because
every reference that is followed goes on to name the same type. A registry therefore stays
grounded: what has been recorded is what a pass over the larger registry would record.
-/

namespace XsdDerivation

section References

variable {find find' : String → Option TypeId}
  (hfind : ∀ reference id, find reference = some id → find' reference = some id)

include hfind

/-- An element without a fault goes on to name the same type. -/
theorem Element.of_extends {element : Element} (hfault : element.fault? find = none) :
    element.fault? find' = none ∧ element.resolved find' = element.resolved find := by
  unfold fault? resolved at *
  cases hreference : element.typeReference with
  | none => exact ⟨rfl, rfl⟩
  | some reference =>
    cases hnamed : find reference with
    | none => simp [hreference, hnamed] at hfault
    | some id => simp [hnamed, hfind reference id hnamed]

/-- What is recorded in an element goes on to be what its reference names. -/
theorem Element.Consistent.of_extends {element : Element} (hconsistent : element.Consistent find) :
    element.Consistent find' := by
  rcases hconsistent with hnone | hresolved
  · exact .inl hnone
  · cases hrecorded : element.resolvedType with
    | none => exact .inl hrecorded
    | some id =>
      obtain ⟨reference, hreference, hnamed⟩ : ∃ reference,
          element.typeReference = some reference ∧ find reference = some id := by
        rw [← hresolved] at hrecorded
        exact Option.bind_eq_some_iff.mp hrecorded
      have hsame : element.typeReference.bind find' = element.resolvedType := by
        rw [hreference, Option.bind_some, hfind reference id hnamed, hrecorded]
      exact .inr (by rw [Element.resolved, hsame])

namespace Declaration

variable {declaration : Declaration}

/-- A type without a fault stays without one, and its references go on to name the same types. -/
theorem of_extends (hfault : declaration.fault? find none = none) :
    declaration.fault? find' none = none ∧ declaration.base? find' = declaration.base? find ∧
      declaration.resolved find' = declaration.resolved find := by
  obtain ⟨helements, hderived⟩ := fault?_eq_none_iff.mp hfault
  have hbase (derivation : Derivation) (hderivation : declaration.derivation? = some derivation) :
      derivation.base? find' = derivation.base? find := by
    have hsome := hderived derivation hderivation
    unfold Derivation.base? at hsome ⊢
    split at hsome
    · cases hsome
    · rename_i hblank
      obtain ⟨base, hnamed⟩ := Option.isSome_iff_exists.mp hsome
      rw [if_neg hblank, if_neg hblank, hnamed, hfind _ base hnamed]
  refine ⟨fault?_eq_none_iff.mpr ⟨fun element helement => ?_, fun derivation hderivation => ?_⟩,
    ?_, annotate_congr (fun element helement => ?_) hbase⟩
  · exact (Element.of_extends hfind (helements element helement)).1
  · rw [hbase derivation hderivation]
    exact hderived derivation hderivation
  · unfold base?
    cases hderivation : declaration.derivation? with
    | none => rfl
    | some derivation => exact hbase derivation hderivation
  · exact (Element.of_extends hfind (helements element helement)).2

/-- A consistent type stays consistent. -/
theorem Consistent.of_extends (hconsistent : declaration.Consistent find) :
    declaration.Consistent find' := by
  refine ⟨fun element helement => ?_, fun hsome => ?_⟩
  · exact (hconsistent.elements element helement).of_extends hfind
  · obtain ⟨hresolved, hfault⟩ := hconsistent.recorded hsome
    obtain ⟨hfault', _, hresolved'⟩ := Declaration.of_extends hfind hfault
    exact ⟨hresolved'.trans hresolved, hfault'⟩

end Declaration

end References

namespace Registry

variable {registry other : Registry} {id : TypeId}

/-- A consistent registry stays consistent while it grows. -/
theorem Consistent.grows (hconsistent : registry.Consistent) (hgrows : registry.Grows other) :
    other.Consistent := by
  intro id declaration hget
  cases hbefore : registry.get? id with
  | none => exact Declaration.consistent_of_forget (hgrows.unrecorded id declaration hbefore hget)
  | some before =>
    have hsame := hgrows.get?_eq id before hbefore
    rw [hget, Option.some.injEq] at hsame
    rw [hsame]
    exact (hconsistent id before hbefore).of_extends hgrows.find_eq

/-- Recorded bases stay, and no type gets one while a registry grows. -/
theorem Grows.recordedBase?_eq (hgrows : registry.Grows other) :
    other.recordedBase? = registry.recordedBase? := by
  funext id
  rw [recordedBase?, recordedBase?]
  cases hbefore : registry.get? id with
  | some before => rw [hgrows.get?_eq id before hbefore]
  | none =>
    cases hget : other.get? id with
    | none => rfl
    | some declaration =>
      rw [Option.bind_some, ← hgrows.unrecorded id declaration hbefore hget,
        Declaration.recordedBase?_forget]
      rfl

/-- A registered type without a fault keeps its base. -/
theorem Grows.nextBase?_eq (hgrows : registry.Grows other) (hget : registry.get? id ≠ none)
    (hfault : registry.localFault? none id = none) :
    other.localFault? none id = none ∧ other.nextBase? id = registry.nextBase? id := by
  obtain ⟨declaration, hdeclaration⟩ := Option.ne_none_iff_exists'.mp hget
  have hafter := hgrows.get?_eq id declaration hdeclaration
  have hlocal := hfault
  rw [localFault?, hdeclaration, Option.bind_some] at hlocal
  obtain ⟨hlocal', hbase, _⟩ := Declaration.of_extends hgrows.find_eq hlocal
  have hfault' : other.localFault? none id = none := by
    rw [localFault?, hafter, Option.bind_some, hlocal']
  refine ⟨hfault', ?_⟩
  rw [nextBase?, nextBase?, hfault, hfault', declaredBase?, declaredBase?, hdeclaration, hafter,
    Option.bind_some, Option.bind_some, hbase]

/-- The types that the walk from a registered type meets are registered. -/
theorem Indexed.get?_ne_none_of_reaches {last : TypeId} (hindexed : registry.Indexed)
    (hget : registry.get? id ≠ none) (hreach : Reaches registry.nextBase? id last) :
    registry.get? last ≠ none := by
  induction hreach with
  | refl => exact hget
  | tail _ hnext => exact hindexed.declaredBase?_registered (declaredBase?_of_nextBase? hnext).2

/-- The walk from a registered type that ends without a fault goes on to do so. -/
theorem Grows.walkFault?_eq_none (hgrows : registry.Grows other) (hindexed : registry.Indexed)
    (hget : registry.get? id ≠ none) (hwalk : registry.walkFault? none id = none) :
    other.walkFault? none id = none := by
  obtain ⟨last, hend, hlast⟩ := walkEnd_of_walkFault?_eq_none hwalk
  obtain ⟨hreach, hstop⟩ := reaches_of_ending_stop hend
  have hkeep : Reaches other.nextBase? id last := by
    refine hreach.congr fun passed base hpassed hnext => ?_
    rw [(hgrows.nextBase?_eq (hindexed.get?_ne_none_of_reaches hget hpassed)
      (declaredBase?_of_nextBase? hnext).1).2]
    exact hnext
  obtain ⟨hlast', hstop'⟩ :=
    hgrows.nextBase?_eq (hindexed.get?_ne_none_of_reaches hget hreach) hlast
  have hend' : other.walkEnd id = .stop last :=
    ending_eq_stop_iff.mpr ⟨hkeep, hstop'.trans hstop⟩
  rw [walkFault?, hend']
  exact hlast'

/-- A grounded registry stays grounded while it grows. -/
theorem Grounded.grows (hgrounded : registry.Grounded) (hindexed : registry.Indexed)
    (hgrows : registry.Grows other) : other.Grounded where
  consistent := hgrounded.consistent.grows hgrows
  walkFault?_eq id hrecorded := by
    rw [hgrows.recordedBase?_eq] at hrecorded
    have hget : registry.get? id ≠ none := by
      intro hnone
      rw [recordedBase?, hnone] at hrecorded
      exact hrecorded rfl
    exact hgrows.walkFault?_eq_none hindexed hget (hgrounded.walkFault?_eq id hrecorded)

end Registry

end XsdDerivation
