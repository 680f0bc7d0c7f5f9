import XsdDerivation.Proofs.Growth
import XsdDerivation.Proofs.History

/-!
# Compiling again

A pass that stops at the first fault records bases only where no fault is ahead. While every pass
does, the registry stays grounded, and compiling it gives what compiling the same registry gives
if nothing has ever been compiled.
-/

namespace XsdDerivation.Registry

variable {registry start : Registry}

/-- What the types resolved by a pass that stops at the first fault lead to has no fault. -/
theorem Indexed.faultAhead?_of_completed {id : TypeId} (hindexed : registry.Indexed)
    (hcompleted : id ∈ (registry.lastRun true).completed) :
    registry.faultAhead? none id = none := by
  obtain ⟨_, hmem⟩ := Run.resting_start.visitAll_true hindexed rfl
    fun id hid => mem_ids_iff.mp hid
  obtain hstart | ⟨first, hfirst, hreach⟩ := (hmem id).mp hcompleted
  · exact absurd hstart List.not_mem_nil
  · have hnone : registry.faultAhead? none first = none := by
      simpa using List.mem_takeWhile_imp hfirst
    exact (faultAhead?_eq_none_iff_of_reaches hreach).mp hnone

/-- A pass that stops at the first fault leaves a grounded registry grounded. -/
theorem Grounded.lastRun (hgrounded : registry.Grounded) (hindexed : registry.Indexed) :
    (registry.lastRun true).registry.Grounded where
  consistent := hgrounded.consistent.lastRun true
  walkFault?_eq id hrecorded := by
    rw [walkFault?_eq_of_forget (forget_lastRun registry true)]
    cases hbefore : registry.recordedBase? id with
    | some base => exact hgrounded.walkFault?_eq id (by rw [hbefore]; exact Option.some_ne_none _)
    | none =>
      have hcompleted := hgrounded.consistent.mem_completed hindexed hbefore hrecorded
      rw [← hgrounded.faultAhead?_eq]
      exact hindexed.faultAhead?_of_completed hcompleted

/-- Compiling a grounded registry up to the first fault gives the first fault at the end of a
walk, or the schema of the resolved registry. -/
theorem Grounded.snd_compile (hgrounded : registry.Grounded) (hindexed : registry.Indexed)
    {config : Config} (hfast : config.failFast = true) :
    (registry.compile config).2 = match registry.ids.findSome? (registry.walkFault? none) with
      | none => .ok (Schema.ofRegistry registry.resolved)
      | some fault => .error [fault] := by
  have hfaults : (registry.resolveAll config.failFast).faults =
      (registry.ids.findSome? (registry.walkFault? none)).toList := by
    have hahead : registry.faultAhead? none = registry.walkFault? none :=
      funext (hgrounded.faultAhead?_eq none)
    rw [hfast, faults_resolveAll, ← hahead]
    exact (Run.resting_start.visitAll_true hindexed rfl fun id hid => mem_ids_iff.mp hid).1
  rw [Registry.snd_compile]
  cases hfirst : registry.ids.findSome? (registry.walkFault? none) with
  | none =>
    rw [hfirst, Option.toList_none] at hfaults
    rw [if_pos hfaults, registry_lastRun_of_faults_eq_nil hindexed hgrounded.consistent hfaults]
  | some fault =>
    rw [hfirst, Option.toList_some] at hfaults
    rw [hfaults, if_neg (List.cons_ne_nil fault [])]

/-- What is recorded in a grounded registry makes no difference to compiling it. -/
theorem Grounded.compile_forget (hgrounded : registry.Grounded) (hindexed : registry.Indexed)
    {config : Config} (hfast : config.failFast = true) :
    (registry.compile config).2 = (registry.forget.compile config).2 := by
  have hnever := hindexed.neverCompiled_forget
  have hids : registry.forget.ids = registry.ids := by rw [ids, ids, size_forget]
  have hwalk : registry.forget.walkFault? = registry.walkFault? :=
    walkFault?_eq_of_forget hnever.forget_eq
  rw [hgrounded.snd_compile hindexed hfast, hnever.grounded.snd_compile hnever.indexed hfast,
    hids, hwalk, resolved_forget]

/-- A history in which every pass stops at the first fault leaves the registry grounded. -/
theorem NeverCompiled.grounded_replay (hnever : start.NeverCompiled) {history : List Operation}
    (hhistory : ∀ operation ∈ history, operation.fills = true ∨ operation.pass? = some true) :
    (start.replay history).Indexed ∧ (start.replay history).Grounded := by
  refine replay_induction (motive := fun registry => registry.Indexed ∧ registry.Grounded)
    (fun registry hregistry operation hoperation => ?_) ⟨hnever.indexed, hnever.grounded⟩
  obtain ⟨hindexed, hgrounded⟩ := hregistry
  rcases hhistory operation hoperation with hfills | hpass
  · have hgrows := Operation.grows_apply hfills registry
    exact ⟨hgrows.indexed hindexed, hgrounded.grows hindexed hgrows⟩
  · rw [Operation.apply_of_pass? hpass]
    exact ⟨hindexed.of_forget (forget_lastRun registry true), hgrounded.lastRun hindexed⟩

/-- While every pass stops at the first fault no loop of bases is ever recorded. -/
theorem NeverCompiled.not_loops_replay (hnever : start.NeverCompiled) {history : List Operation}
    (hhistory : ∀ operation ∈ history, operation.fills = true ∨ operation.pass? = some true)
    (id : TypeId) : ¬Loops (start.replay history).recordedBase? id :=
  (hnever.grounded_replay hhistory).2.not_loops id

/-- **Compiling again is compiling from scratch.** After any history in which every pass stops at
the first fault, compiling up to the first fault gives what it gives after the fillings of the
history alone. -/
theorem compile_replay (hnever : start.NeverCompiled) {history : List Operation}
    (hhistory : ∀ operation ∈ history, operation.fills = true ∨ operation.pass? = some true)
    {config : Config} (hfast : config.failFast = true) :
    ((start.replay history).compile config).2 =
      ((start.replay (history.filter Operation.fills)).compile config).2 := by
  obtain ⟨hindexed, hgrounded⟩ := hnever.grounded_replay hhistory
  have hforget : (start.replay history).forget = start.replay (history.filter Operation.fills) := by
    rw [forget_replay fun operation hoperation => (hhistory operation hoperation).imp_right
      fun hpass => by rw [hpass]; rfl, hnever.forget_eq]
  rw [hgrounded.compile_forget hindexed hfast, hforget]

/-- A type is compiled before its base is registered. -/
def growingHistory : List Operation :=
  [.register (.extending "D" "B" none),
    .compile .standard,
    .register (.complex { ComplexType.ofSequence [] with name := "B" })]

/-- The base that could not be found at first is found in the end. -/
theorem compile_replay_growingHistory :
    empty.NeverCompiled ∧
      (∀ operation ∈ growingHistory, operation.fills = true ∨ operation.pass? = some true) ∧
      ((empty.replay growingHistory).compile .standard).2.toOption.map
        (·.types.map (·.baseChain)) = some [[⟨1⟩], []] ∧
      ((empty.replay growingHistory).compile .standard).2 =
        ((empty.replay (growingHistory.filter Operation.fills)).compile .standard).2 :=
  ⟨neverCompiled_empty, by decide, by decide +kernel,
    compile_replay neverCompiled_empty (by decide) rfl⟩

end XsdDerivation.Registry
