import XsdDerivation.Proofs.History
import XsdDerivation.Proofs.Recording

/-!
# Write-once histories

A history is a sequence of operations and visits in any order. None of them takes back a recorded
reference, changes a type in another way, or moves it to another id. What has been recorded in the
course of a history are ids in use.
-/

namespace XsdDerivation

variable {find : String → Option TypeId} {registry : Registry}

/-! ### Runs -/

/-- The run has recorded nothing in the registry but what its references name. -/
structure Run.Writes (registry : Registry) (run : Run) : Prop where
  /-- What types say has not changed. -/
  forget_eq : run.registry.forget = registry.forget
  /-- What has been recorded before stays, and what is new is named by a reference. -/
  records : Registry.Records registry.findReferenced? registry run.registry
  /-- Bases have been recorded last. -/
  coherent : registry.Indexed → registry.Coherent → run.registry.Coherent

namespace Run

variable {run : Run}

theorem writes_start (registry : Registry) : (start registry).Writes registry :=
  ⟨rfl, .refl registry, fun _ hcoherent => hcoherent⟩

theorem Writes.visit (hwrites : run.Writes registry) (parent : Option Element) (id : TypeId) :
    (run.visit parent id).1.Writes registry := by
  have hvisit := run.visit_spec parent id
  refine ⟨hvisit.forget_eq.trans hwrites.forget_eq, ?_, fun hindexed hcoherent => ?_⟩
  · rw [← Registry.findReferenced?_eq_of_forget hwrites.forget_eq]
    refine .trans ?_ hvisit.records
    rw [Registry.findReferenced?_eq_of_forget hwrites.forget_eq]
    exact hwrites.records
  · exact hvisit.coherent (hindexed.of_forget hwrites.forget_eq)
      (hwrites.coherent hindexed hcoherent)

/-- A list of visits writes once. -/
theorem writes_visitEach (registry : Registry) (calls : List (Option Element × TypeId)) :
    ((start registry).visitEach calls).Writes registry :=
  visitEach_induction (fun _ hwrites call _ => hwrites.visit call.1 call.2) (writes_start registry)

/-- A pass writes once. -/
theorem writes_lastRun (registry : Registry) (failFast : Bool) :
    (registry.lastRun failFast).Writes registry :=
  visitAll_induction (fun _ hwrites id _ => hwrites.visit none id) (writes_start registry)

end Run

/-! ### Filling and changing registries -/

namespace Registry

variable {other : Registry} {id : TypeId}

/-- The appended type has its name under the next id. -/
theorem nameOf?_append (registry : Registry) (name : QualifiedName) (declaration : Declaration)
    (id : TypeId) :
    (registry.append name declaration).nameOf? id =
      if id.index = registry.size then some name else registry.nameOf? id := by
  by_cases h : id.index = registry.size <;> simp_all [nameOf?, append, size, Array.getElem?_push]

/-- Only the ids in use have a name. -/
theorem lt_size_of_nameOf? {name : QualifiedName} (hname : registry.nameOf? id = some name) :
    id.index < registry.size := by
  obtain ⟨entry, hentry, -⟩ := Option.map_eq_some_iff.mp hname
  exact (Array.getElem?_eq_some_iff.mp hentry).1

/-- Appending a type keeps the others. -/
theorem records_append (registry : Registry) (name : QualifiedName) (declaration : Declaration) :
    Records find registry (registry.append name declaration) where
  names id kept hname := by
    have hlt := lt_size_of_nameOf? hname
    rw [nameOf?_append, if_neg (by omega), hname]
  types id kept hget := by
    have hlt := lt_size_of_get? hget
    refine ⟨kept, ?_, .refl kept⟩
    rw [get?_append, if_neg (by omega), hget]

/-- A registration, granted or refused, keeps the other types. -/
theorem records_registerAs (registry : Registry) (name : QualifiedName)
    (declaration : Declaration) :
    Records find registry
      (((registry.registerAs name declaration).toOption.map Prod.snd).getD registry) := by
  unfold registerAs
  split
  · exact .refl registry
  · exact records_append registry name declaration

theorem records_registerBuiltins (registry : Registry) :
    Records find registry registry.registerBuiltins := by
  have hstep (registry : Registry) (type : Builtin) :
      Records find registry (registry.registerBuiltin type) := by
    unfold registerBuiltin
    dsimp only
    split
    · exact .refl registry
    · exact records_append ..
  unfold registerBuiltins
  generalize Builtin.all = types
  induction types generalizing registry with
  | nil => exact .refl registry
  | cons type types ih => exact (hstep registry type).trans (ih _)

/-- Other bindings and another target namespace leave the types alone. -/
theorem records_bindings (registry : Registry) (bindings : Std.TreeMap String String)
    (space : String) :
    Records find registry { registry with bindings, targetNamespace := space } where
  names _ _ hname := hname
  types _ kept hget := ⟨kept, hget, .refl kept⟩

theorem records_bind (registry : Registry) (qualifier space : String) :
    Records find registry ((registry.bind qualifier space).toOption.getD registry) := by
  unfold bind
  split
  · exact records_bindings registry _ _
  · split <;> exact .refl registry

/-- A registry that grows does not lose types. -/
theorem Grows.size_le (hgrows : registry.Grows other) : registry.size ≤ other.size := by
  by_contra hsmaller
  have hlast : (⟨other.size⟩ : TypeId).index < registry.size := Nat.lt_of_not_le hsmaller
  obtain ⟨declaration, hget⟩ := Option.ne_none_iff_exists'.mp (get?_ne_none_iff.mpr hlast)
  exact Nat.lt_irrefl _ (lt_size_of_get? (hgrows.get?_eq _ declaration hget))

/-- Types registered later have nothing recorded. -/
theorem Coherent.grows (hcoherent : registry.Coherent) (hgrows : registry.Grows other) :
    other.Coherent := by
  intro id declaration hget
  cases hbefore : registry.get? id with
  | none => exact Declaration.coherent_of_forget (hgrows.unrecorded id declaration hbefore hget)
  | some before =>
    have hkept := hgrows.get?_eq id before hbefore
    rw [hget, Option.some.injEq] at hkept
    exact hkept ▸ (hcoherent id before hbefore).mono hgrows.size_le

end Registry

/-! ### Operations -/

namespace Operation

variable {operation : Operation}

/-- Whether nothing is recorded in the types that the operation registers. -/
def isPlain : Operation → Bool
  | register declaration => declaration.forget = declaration
  | registerAs _ declaration => declaration.forget = declaration
  | _ => true

/-- **An operation writes once.** Types keep their names and what is recorded in them, and what is
new is what the references name. -/
theorem records_apply (operation : Operation) (registry : Registry) :
    Registry.Records registry.findReferenced? registry (operation.apply registry) := by
  cases operation with
  | setTarget space => exact registry.records_bindings registry.bindings space
  | bind qualifier space => exact registry.records_bind qualifier space
  | register declaration => exact registry.records_registerAs _ declaration
  | registerAs name declaration => exact registry.records_registerAs name declaration
  | registerBuiltins => exact registry.records_registerBuiltins
  | visits calls => exact (Run.writes_visitEach registry calls).records
  | resolve failFast => exact (Run.writes_lastRun registry failFast).records
  | compile config =>
    rw [apply, Registry.fst_compile]
    exact (Run.writes_lastRun registry config.failFast).records

/-- What an operation leaves recorded are ids in use, bases last. -/
theorem coherent_apply (hplain : operation.isPlain = true) (hindexed : registry.Indexed)
    (hcoherent : registry.Coherent) :
    (operation.apply registry).Indexed ∧ (operation.apply registry).Coherent := by
  have hfills (hfills : operation.fills = true) :
      (operation.apply registry).Indexed ∧ (operation.apply registry).Coherent := by
    have hgrows := grows_apply hfills registry
    exact ⟨hgrows.indexed hindexed, hcoherent.grows hgrows⟩
  have hruns {run : Run} (hwrites : run.Writes registry) :
      run.registry.Indexed ∧ run.registry.Coherent :=
    ⟨hindexed.of_forget hwrites.forget_eq, hwrites.coherent hindexed hcoherent⟩
  cases operation with
  | setTarget space => exact ⟨hindexed, hcoherent⟩
  | bind => exact hfills rfl
  | register => exact hfills hplain
  | registerAs => exact hfills hplain
  | registerBuiltins => exact hfills rfl
  | visits calls => exact hruns (Run.writes_visitEach registry calls)
  | resolve failFast => exact hruns (Run.writes_lastRun registry failFast)
  | compile config =>
    rw [apply, Registry.fst_compile]
    exact hruns (Run.writes_lastRun registry config.failFast)

end Operation

/-! ### Histories -/

namespace Registry

variable {start other : Registry} {allowed : Operation → Prop}

/-- One step of a history: an allowed operation, or a visit in a run over the registry, whatever
the run has visited before. -/
inductive Step (allowed : Operation → Prop) : Registry → Registry → Prop where
  /-- An operation. -/
  | operate {registry : Registry} {operation : Operation} (hallowed : allowed operation) :
      Step allowed registry (operation.apply registry)
  /-- A visit. -/
  | visit (run : Run) (parent : Option Element) (id : TypeId) :
      Step allowed run.registry (run.visit parent id).1.registry

/-- Some number of steps, perhaps none, makes the second registry of the first one. -/
def Becomes (allowed : Operation → Prop) (registry other : Registry) : Prop :=
  Relation.ReflTransGen (Step allowed) registry other

/-- A list of allowed operations is a history. -/
theorem becomes_replay {history : List Operation}
    (hallowed : ∀ operation ∈ history, allowed operation) :
    registry.Becomes allowed (registry.replay history) :=
  replay_induction (motive := registry.Becomes allowed)
    (fun _ hbecomes _ hoperation => hbecomes.tail (.operate (hallowed _ hoperation))) .refl

/-- A history may go on with a compilation, where one is allowed. -/
theorem Becomes.compile {config : Config} (hbecomes : start.Becomes allowed registry)
    (hallowed : allowed (.compile config)) : start.Becomes allowed (registry.compile config).1 :=
  hbecomes.tail (.operate hallowed)

/-- A step writes once. -/
theorem Step.records (hstep : Step allowed registry other) :
    Records registry.findReferenced? registry other := by
  cases hstep with
  | operate => exact Operation.records_apply _ registry
  | visit run parent id => exact (run.visit_spec parent id).records

/-- What a step leaves recorded are ids in use, bases last. -/
theorem Step.coherent (hstep : Step (·.isPlain) registry other) (hindexed : registry.Indexed)
    (hcoherent : registry.Coherent) : other.Indexed ∧ other.Coherent := by
  cases hstep with
  | operate hplain => exact Operation.coherent_apply hplain hindexed hcoherent
  | visit run parent id =>
    have hvisit := run.visit_spec parent id
    exact ⟨hindexed.of_forget hvisit.forget_eq, hvisit.coherent hindexed hcoherent⟩

/-- A registry that has never been compiled is coherent. -/
theorem NeverCompiled.coherent (hnever : registry.NeverCompiled) : registry.Coherent :=
  fun id declaration hget => Declaration.coherent_of_forget (hnever.unrecorded id declaration hget)

/-- A registry is coherent after any history. -/
theorem Becomes.coherent (hbecomes : start.Becomes (·.isPlain) registry)
    (hnever : start.NeverCompiled) : registry.Indexed ∧ registry.Coherent := by
  induction hbecomes with
  | refl => exact ⟨hnever.indexed, hnever.coherent⟩
  | tail _ hstep ih => exact hstep.coherent ih.1 ih.2

/-- **References are recorded once.** After any history of a registry that has never been compiled
all that is recorded are ids in use, and a base only where all elements have their types recorded.
Any further step leaves types, names and recorded references as they are, and records only what
the references name at that moment. -/
theorem Becomes.records_once (hnever : start.NeverCompiled)
    (hbecomes : start.Becomes (·.isPlain) registry) (hstep : Step (·.isPlain) registry other) :
    registry.Coherent ∧ Records registry.findReferenced? registry other :=
  ⟨(hbecomes.coherent hnever).2, hstep.records⟩

/-- A type is compiled in vain, its base is registered, and it is compiled again. Then the target
namespace changes, so that the reference to the base names another type. -/
def movedTarget : List Operation :=
  [.register (.extending "Leaf" "Base" (some [])),
    .compile .standard,
    .register (.simple ⟨"Base", .unknown⟩),
    .resolve false,
    .setTarget "urn:other",
    .register (.simple ⟨"Base", .unknown⟩),
    .register (.extending "Late" "Base" none)]

/-- Compiling once more leaves the base that was recorded first and records the other base of the
type that was registered last. -/
theorem records_once_movedTarget :
    empty.NeverCompiled ∧ empty.Becomes (·.isPlain) (empty.replay movedTarget) ∧
      Step (·.isPlain) (empty.replay movedTarget)
        ((Operation.compile .standard).apply (empty.replay movedTarget)) ∧
      (empty.replay movedTarget).findReferenced? "Base" = some ⟨2⟩ ∧
      [⟨0⟩, ⟨3⟩].map (empty.replay movedTarget).recordedBase? = [some ⟨1⟩, none] ∧
      [⟨0⟩, ⟨3⟩].map ((Operation.compile .standard).apply
        (empty.replay movedTarget)).recordedBase? = [some ⟨1⟩, some ⟨2⟩] ∧
      (empty.replay movedTarget).Coherent ∧
      Records (empty.replay movedTarget).findReferenced? (empty.replay movedTarget)
        ((Operation.compile .standard).apply (empty.replay movedTarget)) := by
  have hbecomes : empty.Becomes (·.isPlain) (empty.replay movedTarget) :=
    becomes_replay (by decide +kernel)
  have hstep : Step (·.isPlain) (empty.replay movedTarget)
      ((Operation.compile .standard).apply (empty.replay movedTarget)) := .operate rfl
  exact ⟨neverCompiled_empty, hbecomes, hstep, by decide +kernel, by decide +kernel,
    by decide +kernel, hbecomes.records_once neverCompiled_empty hstep⟩

end Registry

end XsdDerivation
