import XsdDerivation.Path
import XsdDerivation.Resolution.Preparation

/-!
# Resolution runs

A run visits types of one registry. Visiting a type prepares it, visits its base, and then
records the base. Each type is visited at most once, and a derivation that leads back to a type
in the middle of its own visit is circular. A base that failed earlier in the run is not
recorded, so that a later run finds its fault again.
-/

namespace XsdDerivation

/-- Records the base of a registered type. -/
def Registry.recordBase (registry : Registry) (id base : TypeId) : Registry :=
  match registry.get? id with
  | none => registry
  | some declaration => registry.replace id (declaration.recordBase base)

/-- A run over the types of a registry. -/
structure Run where
  /-- The registry, with what has been recorded so far. -/
  registry : Registry
  /-- The types whose visit has begun and not ended, the latest first. -/
  active : List TypeId
  /-- The types that have been resolved. -/
  completed : List TypeId
  /-- The types that could not be resolved. -/
  failed : List TypeId

namespace Run

/-- A run that has not visited any type. -/
def start (registry : Registry) : Run :=
  ⟨registry, [], [], []⟩

/-- Whether the type has been resolved in this run. -/
def isCompleted (run : Run) (id : TypeId) : Bool :=
  id ∈ run.completed

/-- Whether resolving the type failed in this run. -/
def hasFailed (run : Run) (id : TypeId) : Bool :=
  id ∈ run.failed

/-- Begins the visit of a type, whose declaration has been prepared. -/
def enter (run : Run) (id : TypeId) (declaration : Declaration) : Run :=
  { run with
    registry := run.registry.replace id declaration
    active := id :: run.active }

/-- Ends the visit of a type that is resolved. -/
def complete (run : Run) (id : TypeId) : Run :=
  { run with
    active := run.active.erase id
    completed := id :: run.completed }

/-- Ends the visit of a type that cannot be resolved. -/
def fail (run : Run) (id : TypeId) : Run :=
  { run with
    active := run.active.erase id
    failed := id :: run.failed }

/-- Records the base of a type, unless the base failed in this run. -/
def recordBase (run : Run) (id base : TypeId) : Run :=
  if run.hasFailed base then run
  else { run with registry := run.registry.recordBase id base }

/-- Visits a type: does nothing for a type that was visited before or that does not exist,
reports a circular derivation for a type in the middle of its visit, and else resolves the type
and, before it records the base, the base. `parent` is the enclosing element. -/
def visit (run : Run) (parent : Option Element) (id : TypeId) : Run × Option Fault :=
  if run.isCompleted id || run.hasFailed id then (run, none)
  else
    match _ : run.registry.get? id with
    | none => (run, none)
    | some declaration =>
      if _ : id ∈ run.active then (run, some (.circularDerivation declaration.name))
      else
        match declaration.prepare run.registry parent with
        | (prepared, .nothing) => ((run.enter id prepared).complete id, none)
        | (prepared, .fault fault) => ((run.enter id prepared).fail id, some fault)
        | (prepared, .base base) =>
          match (run.enter id prepared).visit parent base with
          | (run, some fault) => (run.fail id, some fault)
          | (run, none) => ((run.recordBase id base).complete id, none)
termination_by unseen run.registry.size run.active
decreasing_by
  simp only [enter, Registry.size_replace]
  exact unseen_cons_lt (Registry.lt_size_of_get? (by assumption)) (by assumption)

/-- Visits types in order and lists the faults found, or stops at the first one. -/
def visitAll (failFast : Bool) : Run → List TypeId → Run × List Fault
  | run, [] => (run, [])
  | run, id :: ids =>
    match run.visit none id with
    | (run, none) => run.visitAll failFast ids
    | (run, some fault) =>
      if failFast then (run, [fault])
      else
        let (run, faults) := run.visitAll failFast ids
        (run, fault :: faults)

/-- Resolves a declaration that is not registered. It is not among the types that the run
visits, but its bases are. -/
def resolveDeclaration (run : Run) (parent : Option Element) (declaration : Declaration) :
    Run × Declaration × Option Fault :=
  match declaration.prepare run.registry parent with
  | (prepared, .nothing) => (run, prepared, none)
  | (prepared, .fault fault) => (run, prepared, some fault)
  | (prepared, .base base) =>
    match run.visit parent base with
    | (run, some fault) => (run, prepared, some fault)
    | (run, none) =>
      (run, if run.hasFailed base then prepared else prepared.recordBase base, none)

end Run

/-- What a run over all types of a registry gives. -/
structure Resolution where
  /-- The registry with what has been recorded. -/
  registry : Registry
  /-- The number of types that have been resolved. -/
  completed : Nat
  /-- The faults in the order in which they were found. -/
  faults : List Fault

/-- Visits every type of a registry, in the order of registration. -/
def Registry.resolveAll (registry : Registry) (failFast : Bool) : Resolution :=
  let (run, faults) := (Run.start registry).visitAll failFast registry.ids
  ⟨run.registry, run.completed.length, faults⟩

end XsdDerivation
