import XsdDerivation.Proofs.Filling
import XsdDerivation.Proofs.Passes

/-!
# Histories

A history fills a registry and compiles it, again and again and in any order. A registration or
a binding that is refused leaves the registry as it is, and so does what a pass cannot resolve,
except that the pass keeps what it has recorded.
-/

namespace XsdDerivation

/-- An operation on a registry. -/
inductive Operation where
  /-- Changes the target namespace. -/
  | setTarget (space : String)
  /-- Binds a prefix. -/
  | bind (qualifier space : String)
  /-- Registers a type under its declared name. -/
  | register (declaration : Declaration)
  /-- Registers a type under another name. -/
  | registerAs (name : QualifiedName) (declaration : Declaration)
  /-- Registers the built-in types. -/
  | registerBuiltins
  /-- Visits types one after another in one run. -/
  | visits (calls : List (Option Element × TypeId))
  /-- Makes a pass over all types. -/
  | resolve (failFast : Bool)
  /-- Compiles the schema. -/
  | compile (config : Config)
  deriving DecidableEq, Repr

namespace Operation

/-- The registry after the operation. -/
def apply (registry : Registry) : Operation → Registry
  | setTarget space => registry.setTarget space
  | bind qualifier space => (registry.bind qualifier space).toOption.getD registry
  | register declaration =>
    ((registry.register declaration).toOption.map Prod.snd).getD registry
  | registerAs name declaration =>
    ((registry.registerAs name declaration).toOption.map Prod.snd).getD registry
  | registerBuiltins => registry.registerBuiltins
  | visits calls => ((Run.start registry).visitEach calls).registry
  | resolve failFast => (registry.resolveAll failFast).registry
  | compile config => (registry.compile config).1

/-- Whether the operation only fills the registry, with types in which nothing is recorded. -/
def fills : Operation → Bool
  | bind _ _ => true
  | register declaration => declaration.forget = declaration
  | registerAs _ declaration => declaration.forget = declaration
  | registerBuiltins => true
  | _ => false

/-- Whether the operation makes a pass over all types, and if so whether the pass stops at the
first fault. -/
def pass? : Operation → Option Bool
  | resolve failFast => some failFast
  | compile config => some config.failFast
  | _ => none

/-- An operation that makes a pass leaves the registry as the last run of the pass does. -/
theorem apply_of_pass? {operation : Operation} {failFast : Bool}
    (hpass : operation.pass? = some failFast) (registry : Registry) :
    operation.apply registry = (registry.lastRun failFast).registry := by
  cases operation with
  | resolve mode =>
    rw [← Option.some.inj hpass]
    rfl
  | compile config =>
    rw [← Option.some.inj hpass]
    exact registry.fst_compile config
  | _ => cases hpass

/-- An operation that fills the registry lets it grow. -/
theorem grows_apply {operation : Operation} (hfills : operation.fills = true)
    (registry : Registry) : registry.Grows (operation.apply registry) := by
  cases operation with
  | bind qualifier space =>
    cases hbind : registry.bind qualifier space with
    | ok other =>
      rw [apply, hbind]
      exact Registry.grows_bind hbind
    | error fault =>
      rw [apply, hbind]
      exact Registry.Grows.refl registry
  | register declaration =>
    cases hregister : registry.register declaration with
    | ok result =>
      rw [apply, hregister]
      exact Registry.grows_registerAs hregister (by simpa [fills] using hfills)
    | error fault =>
      rw [apply, hregister]
      exact Registry.Grows.refl registry
  | registerAs name declaration =>
    cases hregister : registry.registerAs name declaration with
    | ok result =>
      rw [apply, hregister]
      exact Registry.grows_registerAs hregister (by simpa [fills] using hfills)
    | error fault =>
      rw [apply, hregister]
      exact Registry.Grows.refl registry
  | registerBuiltins => exact Registry.grows_registerBuiltins
  | _ => cases hfills

/-- What an operation that fills the registry adds does not depend on what is recorded. -/
theorem forget_apply {operation : Operation} (hfills : operation.fills = true)
    (registry : Registry) :
    (operation.apply registry).forget = operation.apply registry.forget := by
  cases operation with
  | bind qualifier space =>
    rw [apply, apply, Registry.bind_forget]
    cases registry.bind qualifier space <;> rfl
  | register declaration =>
    have hforget : declaration.forget = declaration := by simpa [fills] using hfills
    have hregister : registry.forget.register declaration =
        (registry.register declaration).map fun result => (result.1, result.2.forget) :=
      Registry.registerAs_forget hforget
    rw [apply, apply, hregister]
    cases registry.register declaration <;> rfl
  | registerAs name declaration =>
    have hforget : declaration.forget = declaration := by simpa [fills] using hfills
    rw [apply, apply, Registry.registerAs_forget hforget]
    cases registry.registerAs name declaration <;> rfl
  | registerBuiltins => exact Registry.registerBuiltins_forget.symm
  | _ => cases hfills

end Operation

namespace Registry

variable {registry : Registry}

/-- The registry after a history. -/
def replay (registry : Registry) (history : List Operation) : Registry :=
  history.foldl Operation.apply registry

theorem replay_cons (operation : Operation) (history : List Operation) :
    registry.replay (operation :: history) = (operation.apply registry).replay history := rfl

theorem replay_append (history rest : List Operation) :
    registry.replay (history ++ rest) = (registry.replay history).replay rest := by
  rw [replay, List.foldl_append]
  rfl

theorem replay_append_singleton (history : List Operation) (operation : Operation) :
    registry.replay (history ++ [operation]) = operation.apply (registry.replay history) := by
  rw [replay, List.foldl_append]
  rfl

/-- What the operations of a history keep, the history keeps. -/
theorem replay_induction {motive : Registry → Prop} {history : List Operation}
    (hstep : ∀ registry, motive registry → ∀ operation ∈ history, motive (operation.apply registry))
    (hstart : motive registry) : motive (registry.replay history) := by
  induction history generalizing registry with
  | nil => exact hstart
  | cons operation history ih =>
    rw [replay_cons]
    refine ih (fun registry hregistry other hother => ?_)
      (hstep registry hstart operation (List.mem_cons_self ..))
    exact hstep registry hregistry other (List.mem_cons_of_mem _ hother)

/-- Filling a registry that has never been compiled does not compile it. -/
theorem NeverCompiled.replay {history : List Operation} (hnever : registry.NeverCompiled)
    (hfills : ∀ operation ∈ history, operation.fills = true) :
    (registry.replay history).NeverCompiled :=
  replay_induction (fun registry hnever operation hmem =>
    hnever.grows (Operation.grows_apply (hfills operation hmem) registry)) hnever

/-- Without what is recorded a history leaves the registry as its fillings alone do. -/
theorem forget_replay {history : List Operation}
    (hhistory : ∀ operation ∈ history, operation.fills = true ∨ operation.pass?.isSome) :
    (registry.replay history).forget = registry.forget.replay (history.filter Operation.fills) := by
  induction history generalizing registry with
  | nil => rfl
  | cons operation history ih =>
    rw [replay_cons, ih fun other hother => hhistory other (List.mem_cons_of_mem _ hother)]
    cases hfills : operation.fills with
    | true =>
      rw [List.filter_cons_of_pos hfills, replay_cons, Operation.forget_apply hfills]
    | false =>
      have hsome : operation.pass?.isSome :=
        (hhistory operation (List.mem_cons_self ..)).resolve_left (by simp [hfills])
      obtain ⟨failFast, hpass⟩ := Option.isSome_iff_exists.mp hsome
      rw [List.filter_cons_of_neg (by simp [hfills]), Operation.apply_of_pass? hpass,
        forget_lastRun]

end Registry

end XsdDerivation
