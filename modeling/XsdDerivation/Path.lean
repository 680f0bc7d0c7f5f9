import XsdDerivation.Component.TypeId

/-!
# Paths that do not repeat

Following a partial step from type to type either ends or comes back to a type that it has
passed. The path stops before it would repeat, and it is finite because only the types of a
registry lead anywhere.
-/

namespace XsdDerivation

/-- The number of ids below `size` that are not among those seen. -/
def unseen (size : Nat) (seen : List TypeId) : Nat :=
  ((List.range size).filter fun index => TypeId.mk index ∉ seen).length

/-- Seeing an id that was not seen before leaves fewer ids unseen. -/
theorem unseen_cons_lt {size : Nat} {seen : List TypeId} {id : TypeId}
    (hsize : id.index < size) (hnew : id ∉ seen) :
    unseen size (id :: seen) < unseen size seen := by
  have hfilter : (List.range size).filter (fun index => TypeId.mk index ∉ id :: seen) =
      ((List.range size).filter fun index => TypeId.mk index ∉ seen).filter
        fun index => TypeId.mk index ≠ id := by
    rw [List.filter_filter]
    congr
    funext index
    simp [List.mem_cons, not_or]
  unfold unseen
  rw [hfilter, List.length_filter_lt_length_iff_exists]
  exact ⟨id.index, by simp [hsize, hnew], by simp⟩

/-- The ids from `current` on, each step giving the next, up to the first one that is seen
already. Only ids below `size` have a next one. -/
def path (size : Nat) (step : TypeId → Option TypeId)
    (hstep : ∀ id next, step id = some next → id.index < size)
    (seen : List TypeId) (current : TypeId) : List TypeId :=
  if _ : current ∈ seen then []
  else
    current ::
      match _ : step current with
      | none => []
      | some next => path size step hstep (current :: seen) next
termination_by unseen size seen
decreasing_by exact unseen_cons_lt (hstep _ _ (by assumption)) (by assumption)

end XsdDerivation
