import XsdDerivation.Proofs.History

/-!
# Reported faults are defects

Whatever a registry has recorded, and whichever types a run has visited before, a fault that a
visit finds describes a defect of the registry as it is: of the visited type or of one that
declared bases lead to. For circular derivations the reason is that the types in the middle of
their visit lie on a path of declared bases to the type visited next.
-/

namespace XsdDerivation

variable {find : String → Option TypeId} {registry other : Registry} {parent : Option Element}
  {fault : Fault}

/-- The fault describes a defect of the declaration itself, where `find` looks up references. -/
inductive Declaration.HasDefect (find : String → Option TypeId) (declaration : Declaration) :
    Fault → Prop where
  /-- The type reference of an element names nothing. -/
  | unknownElementType {element : Element} {reference : String}
      (helement : element ∈ declaration.declaredElements)
      (hreference : element.typeReference = some reference) (hfind : find reference = none) :
      HasDefect find declaration (.unknownElementType reference element.name element.position)
  /-- The base reference is not blank and names nothing. -/
  | unknownBase {derivation : Derivation} (hderived : declaration.derivation? = some derivation)
      (hblank : Reference.isBlank derivation.base = false) (hfind : find derivation.base = none) :
      HasDefect find declaration (.unknownBase derivation.base derivation.position)
  /-- The base reference is blank. -/
  | emptyBase {derivation : Derivation} (element : Option String)
      (hderived : declaration.derivation? = some derivation)
      (hblank : Reference.isBlank derivation.base = true) :
      HasDefect find declaration (.emptyBase element derivation.position)

/-- The fault describes a defect of the type with this id. -/
inductive Registry.HasDefect (registry : Registry) (id : TypeId) : Fault → Prop where
  /-- The declaration of the type has the defect. -/
  | own {declaration : Declaration} {fault : Fault} (hget : registry.get? id = some declaration)
      (hdefect : declaration.HasDefect registry.findReferenced? fault) : HasDefect registry id fault
  /-- Declared bases lead from the type back to it. -/
  | circular {declaration : Declaration} (hget : registry.get? id = some declaration)
      (hloop : Loops registry.declaredBase? id) :
      HasDefect registry id (.circularDerivation declaration.name)

/-! ### Defects are declared -/

/-- The defects of a declaration do not depend on what is recorded in it. -/
theorem Declaration.hasDefect_forget_iff {declaration : Declaration} :
    declaration.forget.HasDefect find fault ↔ declaration.HasDefect find fault := by
  constructor
  · intro hdefect
    cases hdefect with
    | unknownElementType helement hreference hfind =>
      rw [forget, declaredElements_annotate] at helement
      obtain ⟨element, hmem, rfl⟩ := List.mem_map.mp helement
      exact (HasDefect.unknownElementType hmem hreference hfind :)
    | unknownBase hderived hblank hfind =>
      rw [forget, derivation?_annotate] at hderived
      obtain ⟨derivation, hmem, rfl⟩ := Option.map_eq_some_iff.mp hderived
      exact (HasDefect.unknownBase hmem hblank hfind :)
    | emptyBase parent hderived hblank =>
      rw [forget, derivation?_annotate] at hderived
      obtain ⟨derivation, hmem, rfl⟩ := Option.map_eq_some_iff.mp hderived
      exact (HasDefect.emptyBase parent hmem hblank :)
  · intro hdefect
    have hderivation (derivation : Derivation)
        (hderived : declaration.derivation? = some derivation) :
        declaration.forget.derivation? = some (derivation.annotate Element.forget none) := by
      rw [forget, derivation?_annotate, hderived, Option.map_some]
    cases hdefect with
    | @unknownElementType element reference helement hreference hfind =>
      have hmem : element.forget ∈ declaration.forget.declaredElements := by
        rw [forget, declaredElements_annotate]
        exact List.mem_map_of_mem helement
      exact (HasDefect.unknownElementType hmem hreference hfind :)
    | @unknownBase derivation hderived hblank hfind =>
      exact (HasDefect.unknownBase (hderivation derivation hderived) hblank hfind :)
    | @emptyBase derivation parent hderived hblank =>
      exact (HasDefect.emptyBase parent (hderivation derivation hderived) hblank :)

/-- Registries in which types say the same have the same defects. -/
theorem Registry.HasDefect.of_forget {id : TypeId} (hdefect : registry.HasDefect id fault)
    (hsame : registry.forget = other.forget) : other.HasDefect id fault := by
  have hother (declaration : Declaration) (hget : registry.get? id = some declaration) :
      ∃ found, other.get? id = some found ∧ found.forget = declaration.forget := by
    have hforget := get?_forget_eq_of_forget hsame id
    rw [hget, Option.map_some, eq_comm] at hforget
    exact Option.map_eq_some_iff.mp hforget
  cases hdefect with
  | own hget hdefect =>
    obtain ⟨found, hfound, hforget⟩ := hother _ hget
    refine .own hfound ?_
    rw [← Declaration.hasDefect_forget_iff, hforget, Declaration.hasDefect_forget_iff,
      ← findReferenced?_eq_of_forget hsame]
    exact hdefect
  | @circular declaration hget hloop =>
    obtain ⟨found, hfound, hforget⟩ := hother declaration hget
    rw [← declaration.name_forget, ← hforget, Declaration.name_forget]
    exact .circular hfound (declaredBase?_eq_of_forget hsame ▸ hloop)

/-! ### Preparing finds defects -/

/-- Resolving an element finds a type reference that names nothing. -/
theorem Element.resolve_fault (registry : Registry) (element : Element) :
    ∀ fault, (element.resolve registry).2 = some fault →
      ∃ reference, element.typeReference = some reference ∧
        registry.findReferenced? reference = none ∧
          fault = .unknownElementType reference element.name element.position := by
  intro fault hfault
  unfold resolve at hfault
  split at hfault
  · rename_i reference hreference _
    split at hfault
    · cases hfault
    · rename_i hnone
      exact ⟨reference, hreference, hnone, (Option.some.inj hfault).symm⟩
  · cases hfault

/-- Resolving elements finds a type reference that names nothing. -/
theorem resolveElements_fault {elements : List Element}
    (hfault : (resolveElements registry elements).2 = some fault) :
    ∃ element ∈ elements, ∃ reference, element.typeReference = some reference ∧
      registry.findReferenced? reference = none ∧
        fault = .unknownElementType reference element.name element.position := by
  induction elements with
  | nil => cases hfault
  | cons element rest ih =>
    rw [resolveElements] at hfault
    have hhead := element.resolve_fault registry
    generalize element.resolve registry = result at hfault hhead
    rcases result with ⟨changed, _ | found⟩
    · obtain ⟨other, hmem, hother⟩ := ih hfault
      exact ⟨other, List.mem_cons_of_mem _ hmem, hother⟩
    · obtain ⟨reference, hreference⟩ := hhead found rfl
      rw [Option.some.injEq] at hfault
      subst hfault
      exact ⟨element, List.mem_cons_self .., reference, hreference⟩

/-- Resolving a sequence finds a type reference of one of its elements that names nothing. -/
theorem resolveSequence_fault {sequence : Option (List Element)}
    (hfault : (resolveSequence registry sequence).2 = some fault) :
    ∃ element ∈ sequence.getD [], ∃ reference, element.typeReference = some reference ∧
      registry.findReferenced? reference = none ∧
        fault = .unknownElementType reference element.name element.position := by
  cases sequence with
  | none => cases hfault
  | some elements => exact resolveElements_fault hfault

/-- Preparing a derivation finds the fault of one of its elements or of its base reference. -/
theorem Derivation.prepare_fault {derivation : Derivation}
    (hfault : (derivation.prepare registry parent).2 = .fault fault) :
    (resolveSequence registry derivation.sequence).2 = some fault ∨
      derivation.baseFault? registry.findReferenced? parent = some fault := by
  cases hrecorded : derivation.resolvedBase with
  | some base =>
    rw [prepare, hrecorded] at hfault
    cases hfault
  | none =>
    rw [prepare_of_unrecorded hrecorded, findBase_eq] at hfault
    cases hsequence : (resolveSequence registry derivation.sequence).2 with
    | some found =>
      rw [hsequence] at hfault
      exact .inl (congrArg some (Remainder.fault.inj hfault))
    | none =>
      rw [hsequence] at hfault
      right
      cases hbase : derivation.baseFault? registry.findReferenced? parent with
      | some found =>
        rw [hbase] at hfault
        exact congrArg some (Remainder.fault.inj hfault)
      | none =>
        rw [hbase] at hfault
        cases hnamed : derivation.base? registry.findReferenced? <;> simp [hnamed] at hfault

/-- The fault of a base reference describes a defect. -/
theorem Declaration.hasDefect_of_baseFault? {declaration : Declaration} {derivation : Derivation}
    (hderived : declaration.derivation? = some derivation)
    (hfault : derivation.baseFault? find parent = some fault) :
    declaration.HasDefect find fault := by
  unfold Derivation.baseFault? at hfault
  split at hfault
  · rename_i hblank
    rw [← Option.some.inj hfault]
    exact .emptyBase _ hderived hblank
  · rename_i hblank
    split at hfault
    · cases hfault
    · rename_i hnone
      rw [← Option.some.inj hfault]
      exact .unknownBase hderived (by simpa using hblank) (by simpa using hnone)

/-- Preparing a declaration finds one of its defects, whatever is recorded in it. -/
theorem Declaration.hasDefect_of_prepare {declaration prepared : Declaration}
    (hprepare : declaration.prepare registry parent = (prepared, .fault fault)) :
    declaration.HasDefect registry.findReferenced? fault := by
  cases declaration with
  | builtin => cases hprepare
  | simple => cases hprepare
  | complex type =>
    have helement (sequence : Option (List Element))
        (hsub : ∀ element ∈ sequence.getD [], element ∈ (complex type).declaredElements)
        (hfault : (resolveSequence registry sequence).2 = some fault) :
        (complex type).HasDefect registry.findReferenced? fault := by
      obtain ⟨element, hmem, reference, hreference, hfind, rfl⟩ := resolveSequence_fault hfault
      exact .unknownElementType (hsub element hmem) hreference hfind
    have hown := helement type.sequence fun element hmem => List.mem_append_left _ hmem
    rw [prepare, ComplexType.prepare] at hprepare
    generalize resolveSequence registry type.sequence = result at hprepare hown
    rcases result with ⟨own, _ | found⟩
    · rcases hcontent : type.content with _ | derivation
      · simp [hcontent] at hprepare
      · have hderived : (complex type).derivation? = some derivation := hcontent
        have hfault : (derivation.prepare registry parent).2 = .fault fault := by
          simpa [hcontent] using congrArg Prod.snd hprepare
        rcases Derivation.prepare_fault hfault with hsequence | hbase
        · refine helement derivation.sequence (fun element hmem => ?_) hsequence
          refine List.mem_append_right _ ?_
          simpa [hcontent] using hmem
        · exact hasDefect_of_baseFault? hderived hbase
    · have hfault : found = fault := by simpa using congrArg Prod.snd hprepare
      exact hown (congrArg some hfault)

/-! ### Visits find defects -/

/-- **A visit finds defects.** If the types in the middle of their visit lead to the visited one,
the fault found describes a defect of a type that this one leads to. -/
theorem Visit.hasDefect {run after : Run} {id : TypeId} {result : Option Fault}
    (hvisit : Visit parent run id after result)
    (hpath : ∀ entry ∈ run.active,
      Relation.TransGen (Leads run.registry.declaredBase?) entry id)
    (hfault : result = some fault) :
    ∃ last, Reaches run.registry.declaredBase? id last ∧ run.registry.HasDefect last fault := by
  induction hvisit with
  | settled => cases hfault
  | missing => cases hfault
  | circular _ _ hactive hget =>
    rw [← Option.some.inj hfault]
    exact ⟨_, .refl, .circular hget (hpath _ hactive)⟩
  | plain => cases hfault
  | faulty hopens hprepare =>
    rw [← Option.some.inj hfault]
    exact ⟨_, .refl, .own hopens.get? (Declaration.hasDefect_of_prepare hprepare)⟩
  | @stuck run after id base declaration prepared cause hopens hprepare hbase ih =>
    have hsame : (run.enter id prepared).registry.forget = run.registry.forget :=
      Registry.forget_replace hopens.get? (Run.Opens.forget_prepared hprepare)
    have hdeclared := Registry.declaredBase?_eq_of_forget hsame
    have hstep : Leads run.registry.declaredBase? id base := hopens.declaredBase?_eq hprepare
    obtain ⟨last, hreach, hdefect⟩ := ih (fun entry hentry => by
      rw [hdeclared]
      rcases List.mem_cons.mp hentry with rfl | hentry
      · exact .single hstep
      · exact (hpath entry hentry).tail hstep) hfault
    exact ⟨last, .head hstep (hdeclared ▸ hreach), hdefect.of_forget hsame⟩
  | derived => cases hfault

namespace Run

variable {run : Run}

/-- A run between two visits: it has been started over some registry and has visited types, and
between its visits the registry may have become another one, as when other runs record in it. -/
inductive Idle : Run → Prop where
  /-- A run that has not visited any type. -/
  | start (registry : Registry) : Idle (start registry)
  /-- A run after one more visit. -/
  | visit {run : Run} (hidle : Idle run) (parent : Option Element) (id : TypeId) :
      Idle (run.visit parent id).1
  /-- A run after resolving a declaration that is not registered. -/
  | resolve {run : Run} (hidle : Idle run) (parent : Option Element) (declaration : Declaration) :
      Idle (run.resolveDeclaration parent declaration).1
  /-- A run after a change of its registry. -/
  | change {run : Run} (hidle : Idle run) (registry : Registry) : Idle { run with registry }

/-- Resolving a declaration ends in the middle of the visits in which it began. -/
theorem active_resolveDeclaration (run : Run) (parent : Option Element)
    (declaration : Declaration) :
    (run.resolveDeclaration parent declaration).1.active = run.active := by
  unfold resolveDeclaration
  rcases declaration.prepare run.registry parent with ⟨prepared, _ | base | fault⟩
  · rfl
  · have hactive := (run.visit_spec parent base).active_eq
    dsimp only
    split <;> simp_all
  · rfl

/-- Between two visits no type is in the middle of its visit. -/
theorem Idle.active_eq (hidle : run.Idle) : run.active = [] := by
  induction hidle with
  | start => rfl
  | @visit run _ parent id ih => exact (run.visit_spec parent id).active_eq.trans ih
  | @resolve run _ parent declaration ih =>
    exact (run.active_resolveDeclaration parent declaration).trans ih
  | change _ _ ih => exact ih

/-- **No false alarms.** A fault that a visit finds describes a defect, in the registry as it is,
of the type visited or of one that declared bases lead to. -/
theorem Idle.hasDefect_of_visit (hidle : run.Idle) {id : TypeId}
    (hfault : (run.visit parent id).2 = some fault) :
    ∃ last, Reaches run.registry.declaredBase? id last ∧ run.registry.HasDefect last fault := by
  refine (run.visit_spec parent id).hasDefect (fun entry hentry => ?_) hfault
  rw [hidle.active_eq] at hentry
  exact absurd hentry List.not_mem_nil

/-- A type and its base are resolved, and in another target namespace two types extend each
other and a third extends the second of them. -/
def changedTarget : List Operation :=
  [.register (.extending "A" "B" none),
    .register (.complex { ComplexType.ofSequence [] with name := "B" }),
    .resolve true,
    .setTarget "urn:other",
    .register (.extending "C" "D" none),
    .register (.extending "D" "C" none),
    .register (.extending "E" "D" none)]

/-- The run over this registry that has visited the first type, whose base reference names
nothing any more. -/
def afterChange : Run := ((start (.replay .empty changedTarget)).visit none ⟨0⟩).1

/-- Nothing is wrong with the first type, and the last one leads to a loop. -/
theorem hasDefect_of_visit_changedTarget :
    ((start (.replay .empty changedTarget)).visit none ⟨0⟩).2 = none ∧ afterChange.Idle ∧
      (afterChange.visit none ⟨4⟩).2 = some (.circularDerivation "D") ∧
      ∃ last, Reaches afterChange.registry.declaredBase? ⟨4⟩ last ∧
        afterChange.registry.HasDefect last (.circularDerivation "D") := by
  have hidle : afterChange.Idle := (Idle.start _).visit none ⟨0⟩
  have hfault : (afterChange.visit none ⟨4⟩).2 = some (.circularDerivation "D") := by
    decide +kernel
  exact ⟨by decide +kernel, hidle, hfault, hidle.hasDefect_of_visit hfault⟩

end Run

end XsdDerivation
