import XsdDerivation.Proofs.DeclaredWalk

/-!
# Preparing declarations

While the target namespace stays, whatever is recorded is what the references name. Such
declarations are called consistent here. Preparing one finds its first fault or the base that
remains to be resolved, and it records nothing that the references do not name.
-/

namespace XsdDerivation

variable {find : String → Option TypeId} {registry : Registry}

/-- The base that remains to be resolved. -/
def Remainder.base? : Remainder → Option TypeId
  | .base id => some id
  | _ => none

/-- The fault because of which nothing can be done. -/
def Remainder.fault? : Remainder → Option Fault
  | .fault cause => some cause
  | _ => none

/-- The fault as it is reported in this enclosing element, the name of which is told by the fault of
a blank base reference only. -/
def Fault.within (parent : Option Element) : Fault → Fault
  | .emptyBase _ position => .emptyBase (parent.map (·.name)) position
  | fault => fault

/-- What remains in this enclosing element. -/
def Remainder.within (parent : Option Element) : Remainder → Remainder
  | .fault cause => .fault (cause.within parent)
  | remainder => remainder

@[simp] theorem Remainder.base?_within (parent : Option Element) (remainder : Remainder) :
    (remainder.within parent).base? = remainder.base? := by
  cases remainder <;> rfl

@[simp] theorem Remainder.fault?_within (parent : Option Element) (remainder : Remainder) :
    (remainder.within parent).fault? = remainder.fault?.map (Fault.within parent) := by
  cases remainder <;> rfl

/-! ### In any registry -/

/-- Resolving an element depends on the registry through its references only. -/
theorem Element.resolve_congr {other : Registry}
    (hfind : registry.findReferenced? = other.findReferenced?) (element : Element) :
    element.resolve registry = element.resolve other := by
  rw [resolve, resolve, hfind]

/-- Resolving an element keeps its declared parts. -/
theorem Element.forget_resolve (registry : Registry) (element : Element) :
    (element.resolve registry).1.forget = element.forget := by
  unfold resolve
  split
  · split <;> rfl
  · rfl

theorem resolveElements_congr {other : Registry}
    (hfind : registry.findReferenced? = other.findReferenced?) (elements : List Element) :
    resolveElements registry elements = resolveElements other elements := by
  induction elements with
  | nil => rfl
  | cons element rest ih => rw [resolveElements, resolveElements, ih, element.resolve_congr hfind]

theorem forget_resolveElements (registry : Registry) (elements : List Element) :
    (resolveElements registry elements).1.map Element.forget = elements.map Element.forget := by
  induction elements with
  | nil => rfl
  | cons element rest ih =>
    have hforget := element.forget_resolve registry
    rw [resolveElements]
    generalize element.resolve registry = result at hforget
    rcases result with ⟨changed, _ | fault⟩
    · exact congrArg₂ List.cons hforget ih
    · exact congrArg₂ List.cons hforget rfl

theorem resolveSequence_congr {other : Registry}
    (hfind : registry.findReferenced? = other.findReferenced?)
    (sequence : Option (List Element)) :
    resolveSequence registry sequence = resolveSequence other sequence := by
  cases sequence with
  | none => rfl
  | some elements => rw [resolveSequence, resolveSequence, resolveElements_congr hfind]

theorem forget_resolveSequence (registry : Registry) (sequence : Option (List Element)) :
    (resolveSequence registry sequence).1.map (·.map Element.forget) =
      sequence.map (·.map Element.forget) := by
  cases sequence with
  | none => rfl
  | some elements => exact congrArg some (forget_resolveElements registry elements)

/-- The fault of an element is the same in every enclosing element. -/
theorem Element.within_of_resolve {element : Element} {parent : Option Element} {fault : Fault}
    (hfault : (element.resolve registry).2 = some fault) : fault.within parent = fault := by
  unfold resolve at hfault
  split at hfault
  · split at hfault
    · cases hfault
    · cases hfault
      rfl
  · cases hfault

theorem within_of_resolveElements {elements : List Element} {parent : Option Element}
    {fault : Fault} (hfault : (resolveElements registry elements).2 = some fault) :
    fault.within parent = fault := by
  induction elements with
  | nil => cases hfault
  | cons element rest ih =>
    rw [resolveElements] at hfault
    cases hresolve : element.resolve registry with
    | mk changed found =>
      cases found with
      | none =>
        rw [hresolve] at hfault
        exact ih hfault
      | some found =>
        rw [hresolve] at hfault
        cases hfault
        have hfound : (element.resolve registry).2 = some fault := by rw [hresolve]
        exact Element.within_of_resolve hfound

theorem within_of_resolveSequence {sequence : Option (List Element)} {parent : Option Element}
    {fault : Fault} (hfault : (resolveSequence registry sequence).2 = some fault) :
    fault.within parent = fault := by
  cases sequence with
  | none => cases hfault
  | some elements =>
    have hfound : (resolveElements registry elements).2 = some fault := hfault
    exact within_of_resolveElements hfound

namespace Derivation

theorem prepare_congr {other : Registry}
    (hfind : registry.findReferenced? = other.findReferenced?) (parent : Option Element)
    (derivation : Derivation) :
    derivation.prepare registry parent = derivation.prepare other parent := by
  unfold prepare findBase
  rw [resolveSequence_congr hfind, hfind]

/-- Preparing a derivation keeps everything but its elements. -/
theorem prepare_eq (registry : Registry) (parent : Option Element) (derivation : Derivation) :
    ∃ sequence, sequence.map (·.map Element.forget) =
        derivation.sequence.map (·.map Element.forget) ∧
      (derivation.prepare registry parent).1 = { derivation with sequence } := by
  have hforget := forget_resolveSequence registry derivation.sequence
  unfold prepare
  split
  · exact ⟨derivation.sequence, rfl, rfl⟩
  · generalize resolveSequence registry derivation.sequence = result at hforget
    rcases result with ⟨sequence, _ | fault⟩
    · exact ⟨sequence, hforget, rfl⟩
    · exact ⟨sequence, hforget, rfl⟩

/-- The enclosing element is named by the fault of a blank base reference and nowhere else. -/
theorem findBase_within (registry : Registry) (parent other : Option Element)
    (derivation : Derivation) :
    derivation.findBase registry parent = (derivation.findBase registry other).within parent := by
  unfold findBase
  split
  · rfl
  · cases registry.findReferenced? derivation.base <;> rfl

/-- Preparing a derivation depends on the enclosing element only as its faults do. -/
theorem prepare_within (registry : Registry) (parent other : Option Element)
    (derivation : Derivation) :
    derivation.prepare registry parent =
      ((derivation.prepare registry other).1,
        (derivation.prepare registry other).2.within parent) := by
  unfold prepare
  split
  · rfl
  · cases hsequence : resolveSequence registry derivation.sequence with
    | mk sequence fault =>
      cases fault with
      | none => exact congrArg (Prod.mk _) (derivation.findBase_within registry parent other)
      | some fault =>
        have hsame : fault.within parent = fault := within_of_resolveSequence (by rw [hsequence])
        simp only [Remainder.within, hsame]

/-- A base that remains to be resolved is named by the base reference and not recorded. -/
theorem base_of_prepare {parent : Option Element} {derivation : Derivation} {base : TypeId}
    (hbase : (derivation.prepare registry parent).2.base? = some base) :
    derivation.base? registry.findReferenced? = some base ∧ derivation.resolvedBase = none := by
  unfold prepare at hbase
  split at hbase
  · cases hbase
  · rename_i hrecorded
    refine ⟨?_, by simpa using hrecorded⟩
    generalize resolveSequence registry derivation.sequence = result at hbase
    rcases result with ⟨sequence, _ | fault⟩
    · unfold findBase at hbase
      unfold base?
      dsimp only at hbase
      split at hbase
      · cases hbase
      · rename_i hblank
        rw [if_neg hblank]
        cases hfind : registry.findReferenced? derivation.base with
        | none => simp [hfind, Remainder.base?] at hbase
        | some id => simpa [hfind, Remainder.base?] using hbase
    · cases hbase

end Derivation

namespace Declaration

/-- Preparing a declaration depends on the registry through its references only. -/
theorem prepare_congr {other : Registry}
    (hfind : registry.findReferenced? = other.findReferenced?) (parent : Option Element)
    (declaration : Declaration) :
    declaration.prepare registry parent = declaration.prepare other parent := by
  cases declaration with
  | builtin => rfl
  | simple => rfl
  | complex type =>
    simp only [prepare, ComplexType.prepare, resolveSequence_congr hfind,
      Derivation.prepare_congr hfind]

/-- Preparing a declaration keeps its declared parts and its recorded base. -/
theorem prepare_forget (registry : Registry) (parent : Option Element) (declaration : Declaration) :
    (declaration.prepare registry parent).1.forget = declaration.forget ∧
      (declaration.prepare registry parent).1.recordedBase? = declaration.recordedBase? := by
  cases declaration with
  | builtin => exact ⟨rfl, rfl⟩
  | simple => exact ⟨rfl, rfl⟩
  | complex type =>
    have hown := forget_resolveSequence registry type.sequence
    rw [prepare, ComplexType.prepare]
    generalize resolveSequence registry type.sequence = result at hown
    rcases result with ⟨own, _ | fault⟩
    · rcases hcontent : type.content with _ | derivation
      · simp [forget, annotate, ComplexType.annotate, hown, hcontent, recordedBase?, derivation?,
          complexType?]
      · obtain ⟨sequence, hinner, hprepare⟩ :=
          derivation.prepare_eq registry parent
        simp [forget, annotate, ComplexType.annotate, Derivation.annotate, hown, hinner, hprepare,
          hcontent, recordedBase?, derivation?, complexType?]
    · simp [forget, annotate, ComplexType.annotate, hown, recordedBase?, derivation?,
        complexType?]

/-- In whatever element the type is declared, preparing the declaration makes the same of it and
leaves the same to be done, up to the element that a fault names. -/
theorem prepare_within (registry : Registry) (parent other : Option Element)
    (declaration : Declaration) :
    declaration.prepare registry parent =
      ((declaration.prepare registry other).1,
        (declaration.prepare registry other).2.within parent) := by
  cases declaration with
  | builtin => rfl
  | simple => rfl
  | complex type =>
    rw [prepare, prepare, ComplexType.prepare, ComplexType.prepare]
    cases hsequence : resolveSequence registry type.sequence with
    | mk own fault =>
      cases fault with
      | none =>
        cases type.content with
        | none => rfl
        | some derivation =>
          have hcontent := derivation.prepare_within registry parent other
          simp only [hcontent]
      | some fault =>
        have hsame : fault.within parent = fault := within_of_resolveSequence (by rw [hsequence])
        simp only [Remainder.within, hsame]

/-- Preparing a declaration makes the same of it in every enclosing element. -/
theorem fst_prepare (registry : Registry) (parent other : Option Element)
    (declaration : Declaration) :
    (declaration.prepare registry parent).1 = (declaration.prepare registry other).1 := by
  rw [declaration.prepare_within registry parent other]

/-- A base that remains to be resolved is named by the declaration and not recorded. -/
theorem base_of_prepare {parent : Option Element} {declaration : Declaration} {base : TypeId}
    (hbase : (declaration.prepare registry parent).2.base? = some base) :
    declaration.base? registry.findReferenced? = some base ∧ declaration.recordedBase? = none := by
  cases declaration with
  | builtin => cases hbase
  | simple => cases hbase
  | complex type =>
    rw [prepare, ComplexType.prepare] at hbase
    generalize resolveSequence registry type.sequence = result at hbase
    rcases result with ⟨own, _ | fault⟩
    · rcases hcontent : type.content with _ | derivation
      · simp [hcontent, Remainder.base?] at hbase
      · rw [hcontent] at hbase
        obtain ⟨hnamed, hnone⟩ := Derivation.base_of_prepare hbase
        simp [Declaration.base?, recordedBase?, derivation?, complexType?, hcontent, hnamed, hnone]
    · cases hbase

end Declaration

namespace Registry

/-- What remains to be done for a type once it has been prepared. -/
def remainderOf (registry : Registry) (parent : Option Element) (id : TypeId) : Remainder :=
  (registry.get? id).elim .nothing fun declaration => (declaration.prepare registry parent).2

/-- The base that remains to be resolved for a type once it has been prepared. -/
def pendingBase? (registry : Registry) (id : TypeId) : Option TypeId :=
  (registry.remainderOf none id).base?

/-- Only a registered type leaves a base to be resolved. -/
theorem lt_size_of_pendingBase? {registry : Registry} (id base : TypeId)
    (hpending : registry.pendingBase? id = some base) : id.index < registry.size := by
  cases hget : registry.get? id with
  | none =>
    rw [pendingBase?, remainderOf, hget] at hpending
    cases hpending
  | some declaration => exact lt_size_of_get? hget

/-- A base that remains is the declared one and not recorded. -/
theorem declaredBase?_of_pendingBase? {registry : Registry} {id base : TypeId}
    (hpending : registry.pendingBase? id = some base) :
    registry.declaredBase? id = some base ∧ registry.recordedBase? id = none := by
  rw [pendingBase?, remainderOf] at hpending
  cases hget : registry.get? id with
  | none =>
    rw [hget] at hpending
    cases hpending
  | some declaration =>
    rw [hget, Option.elim_some] at hpending
    simpa [declaredBase?, recordedBase?, hget] using Declaration.base_of_prepare hpending

/-- The base that remains does not depend on the enclosing element. -/
theorem base?_remainderOf (registry : Registry) (parent : Option Element) (id : TypeId) :
    (registry.remainderOf parent id).base? = registry.pendingBase? id := by
  unfold pendingBase? remainderOf
  cases registry.get? id with
  | none => rfl
  | some declaration =>
    rw [Option.elim_some, Option.elim_some, declaration.prepare_within registry parent none,
      Remainder.base?_within]

/-- Whether a type has a fault does not depend on the enclosing element. -/
theorem fault?_remainderOf_eq_none_iff {registry : Registry} {parent : Option Element}
    {id : TypeId} :
    (registry.remainderOf parent id).fault? = none ↔
      (registry.remainderOf none id).fault? = none := by
  unfold remainderOf
  cases registry.get? id with
  | none => rfl
  | some declaration =>
    rw [Option.elim_some, Option.elim_some, declaration.prepare_within registry parent none,
      Remainder.fault?_within, Option.map_eq_none_iff]

/-- No base remains for a type with a fault. -/
theorem pendingBase?_of_fault {registry : Registry} {id : TypeId}
    (hfault : (registry.remainderOf none id).fault? ≠ none) : registry.pendingBase? id = none := by
  unfold pendingBase?
  cases hremainder : registry.remainderOf none id with
  | nothing => rfl
  | base id => exact absurd (by rw [hremainder]; rfl) hfault
  | fault cause => rfl

/-- The types to be visited from `id` on if those in `seen` are in the middle of their visit. -/
def pendingWalk (registry : Registry) (seen : List TypeId) (id : TypeId) : List TypeId :=
  path registry.size registry.pendingBase? lt_size_of_pendingBase? seen id

/-- How the visits from `id` on end if those in `seen` are in the middle of their visit. -/
def pendingEnd (registry : Registry) (seen : List TypeId) (id : TypeId) : Ending :=
  ending registry.size registry.pendingBase? lt_size_of_pendingBase? seen id

/-- The fault found at the end of the visits: that of the last type, or that the derivation of
the first type met again is circular. -/
def pendingFault? (registry : Registry) (parent : Option Element) : Ending → Option Fault
  | .stop last => (registry.remainderOf parent last).fault?
  | .loop entry => some (.circularDerivation (registry.declaredName entry))

end Registry

/-! ### In a consistent registry -/

/-- A recorded type of the element is the one that its reference names. -/
def Element.Consistent (find : String → Option TypeId) (element : Element) : Prop :=
  element.resolvedType = none ∨ element.resolved find = element

/-- Resolving a consistent element records what its reference names, or finds its fault. -/
theorem Element.resolve_eq {element : Element}
    (hconsistent : element.Consistent registry.findReferenced?) :
    element.resolve registry =
      (element.resolved registry.findReferenced?, element.fault? registry.findReferenced?) := by
  rcases element with ⟨name, identifier, typeReference, minOccurs, maxOccurs, position, recorded⟩
  have hrecorded : recorded = none ∨ typeReference.bind registry.findReferenced? = recorded := by
    simpa [Element.Consistent, Element.resolved] using hconsistent
  cases typeReference with
  | none => rcases hrecorded with rfl | rfl <;> rfl
  | some reference =>
    cases hfind : registry.findReferenced? reference with
    | none =>
      have hnone : recorded = none := by simpa [hfind, eq_comm] using hrecorded
      subst hnone
      simp [Element.resolve, Element.resolved, Element.fault?, hfind]
    | some id =>
      rcases hrecorded with rfl | hrecorded
      · simp [Element.resolve, Element.resolved, Element.fault?, hfind]
      · have hsome : recorded = some id := by simpa [hfind] using hrecorded.symm
        subst hsome
        simp [Element.resolve, Element.resolved, Element.fault?, hfind]

/-- What resolving a sequence, present or absent, gives: its first fault, and the same elements
with nothing but what their references name recorded, everything if there is no fault. -/
structure SequenceResolved (find : String → Option TypeId) (before after : Option (List Element))
    (fault : Option Fault) : Prop where
  /-- The fault is that of the first element with one. -/
  fault_eq : fault = (before.getD []).findSome? (Element.fault? find)
  /-- The declared parts of the elements stay. -/
  forget_eq : after.map (·.map Element.forget) = before.map (·.map Element.forget)
  /-- Recorded types are those that the references name. -/
  consistent : ∀ element ∈ after.getD [], element.Consistent find
  /-- Without a fault every element is resolved. -/
  resolved : fault = none → after = before.map (·.map (Element.resolved find))

/-- Resolving consistent elements goes up to the first fault. -/
theorem resolveElements_spec {elements : List Element}
    (hconsistent : ∀ element ∈ elements, element.Consistent registry.findReferenced?) :
    SequenceResolved registry.findReferenced? (some elements)
      (some (resolveElements registry elements).1) (resolveElements registry elements).2 := by
  induction elements with
  | nil => exact ⟨rfl, rfl, by simp [resolveElements], fun _ => rfl⟩
  | cons element rest ih =>
    have hrest := ih fun other hother => hconsistent other (List.mem_cons_of_mem _ hother)
    have helement := Element.resolve_eq (hconsistent element (List.mem_cons_self ..))
    have hresolved : (element.resolved registry.findReferenced?).Consistent
        registry.findReferenced? := .inr rfl
    rw [resolveElements, helement]
    cases hfault : element.fault? registry.findReferenced? with
    | some fault =>
      refine ⟨by simp [hfault], by simp, fun other hother => ?_, fun hnone => by simp at hnone⟩
      rcases List.mem_cons.mp hother with rfl | hother
      · exact hresolved
      · exact hconsistent other (List.mem_cons_of_mem _ hother)
    | none =>
      have hforget : (resolveElements registry rest).1.map Element.forget =
          rest.map Element.forget := by simpa using hrest.forget_eq
      refine ⟨by simpa [hfault] using hrest.fault_eq, by simp [hforget], fun other hother => ?_,
        fun hnone => by simpa using hrest.resolved hnone⟩
      rcases List.mem_cons.mp hother with rfl | hother
      · exact hresolved
      · exact hrest.consistent other hother

/-- The same holds of a sequence that may be absent. -/
theorem resolveSequence_spec {sequence : Option (List Element)}
    (hconsistent : ∀ element ∈ sequence.getD [], element.Consistent registry.findReferenced?) :
    SequenceResolved registry.findReferenced? sequence
      (resolveSequence registry sequence).1 (resolveSequence registry sequence).2 := by
  cases sequence with
  | none => exact ⟨rfl, rfl, by simp [resolveSequence], fun _ => rfl⟩
  | some elements => exact resolveElements_spec hconsistent

namespace Declaration

/-- What is recorded in the declaration is what its references name, and a declaration with a
recorded base is resolved in every part. -/
structure Consistent (find : String → Option TypeId) (declaration : Declaration) : Prop where
  /-- Recorded types of elements are those that the references name. -/
  elements : ∀ element ∈ declaration.declaredElements, element.Consistent find
  /-- A recorded base comes last. -/
  recorded : declaration.recordedBase?.isSome →
    declaration.resolved find = declaration ∧ declaration.fault? find none = none

/-- What remains to be done for a declaration, read off its declared references and off whether
it has a recorded base. -/
def declaredRemainder (find : String → Option TypeId) (parent : Option Element)
    (declaration : Declaration) : Remainder :=
  match declaration.fault? find parent with
  | some fault => .fault fault
  | none =>
    if declaration.recordedBase?.isSome then .nothing
    else (declaration.base? find).elim .nothing .base

/-- What preparing a declaration makes of it. -/
structure Prepared (find : String → Option TypeId) (before after : Declaration)
    (remainder : Remainder) : Prop where
  /-- The declared parts stay. -/
  forget_eq : after.forget = before.forget
  /-- Nothing is recorded that the references do not name. -/
  consistent : after.Consistent find
  /-- No base is recorded yet. -/
  recordedBase?_eq : after.recordedBase? = before.recordedBase?
  /-- If nothing remains the declaration is resolved. -/
  resolved : remainder = .nothing → after = before.resolved find
  /-- If the base remains the declaration is resolved once the base is recorded. -/
  recordBase : ∀ base, remainder = .base base → after.recordBase base = before.resolved find

end Declaration

/-- Looking for the base finds the fault of the base reference or the base. -/
theorem Derivation.findBase_eq (parent : Option Element) (derivation : Derivation) :
    derivation.findBase registry parent =
      (derivation.baseFault? registry.findReferenced? parent).elim
        ((derivation.base? registry.findReferenced?).elim .nothing .base) .fault := by
  unfold findBase baseFault? base?
  cases hfind : registry.findReferenced? derivation.base <;> split <;> simp

/-- Preparing a derivation without a recorded base resolves its elements and finds its base. -/
theorem Derivation.prepare_of_unrecorded {parent : Option Element} {derivation : Derivation}
    (hnone : derivation.resolvedBase = none) :
    derivation.prepare registry parent =
      ({ derivation with sequence := (resolveSequence registry derivation.sequence).1 },
        (resolveSequence registry derivation.sequence).2.elim
          (derivation.findBase registry parent) .fault) := by
  rw [prepare, hnone]
  rcases resolveSequence registry derivation.sequence with ⟨sequence, _ | fault⟩ <;> rfl

namespace Declaration

/-- The first fault of a complex type: of its own elements, of those of its content, of its
base reference. -/
theorem fault?_complex (parent : Option Element) (type : ComplexType) :
    (complex type).fault? find parent =
      ((type.sequence.getD []).findSome? (Element.fault? find)).or
        ((((type.content.bind (·.sequence)).getD []).findSome? (Element.fault? find)).or
          (type.content.bind (Derivation.baseFault? find parent))) := by
  rw [← Option.or_assoc, ← List.findSome?_append]
  rfl

/-- Preparing a consistent complex type of which an own element has a fault. -/
theorem prepared_of_fault {parent : Option Element} {type : ComplexType}
    {own : Option (List Element)} {fault : Fault}
    (hconsistent : (complex type).Consistent find)
    (hown : SequenceResolved find type.sequence own (some fault)) :
    Remainder.fault fault = (complex type).declaredRemainder find parent ∧
      Prepared find (complex type) (complex { type with sequence := own }) (.fault fault) := by
  have hfault (parent : Option Element) : (complex type).fault? find parent = some fault := by
    rw [fault?_complex, ← hown.fault_eq, Option.some_or]
  refine ⟨by rw [declaredRemainder, hfault], ?_, ⟨fun element helement => ?_, fun hsome => ?_⟩, rfl,
    by simp, by simp⟩
  · simp [forget, annotate, ComplexType.annotate, hown.forget_eq]
  · rcases List.mem_append.mp helement with hmem | hmem
    · exact hown.consistent element hmem
    · exact hconsistent.elements element (List.mem_append_right _ hmem)
  · have hnone := (hconsistent.recorded hsome).2
    rw [hfault] at hnone
    cases hnone

/-- Preparing a complex type that is not derived. -/
theorem prepared_of_underived {parent : Option Element} {type : ComplexType}
    {own : Option (List Element)} (hcontent : type.content = none)
    (hown : SequenceResolved find type.sequence own none) :
    Remainder.nothing = (complex type).declaredRemainder find parent ∧
      Prepared find (complex type) (complex { type with sequence := own }) .nothing := by
  have hfault : (complex type).fault? find parent = none := by
    rw [fault?_complex, ← hown.fault_eq, hcontent]
    rfl
  have hbase : (complex type).base? find = none := by
    simp [base?, derivation?, complexType?, hcontent]
  refine ⟨by simp [declaredRemainder, hfault, hbase], ?_,
    ⟨fun element helement => ?_, fun hsome => ?_⟩, rfl, fun _ => ?_, by simp⟩
  · simp [forget, annotate, ComplexType.annotate, hown.forget_eq]
  · refine hown.consistent element ?_
    simpa [declaredElements, complexType?, ComplexType.declaredElements, hcontent] using helement
  · simp [recordedBase?, derivation?, complexType?, hcontent] at hsome
  · simp [resolved, annotate, ComplexType.annotate, hcontent, hown.resolved rfl]

/-- Preparing a complex type whose base is recorded finds nothing to be done. -/
theorem prepared_of_recorded {parent : Option Element} {type : ComplexType}
    {own : Option (List Element)} (hconsistent : (complex type).Consistent find)
    (hsome : (complex type).recordedBase?.isSome)
    (hown : SequenceResolved find type.sequence own none) :
    Remainder.nothing = (complex type).declaredRemainder find parent ∧
      Prepared find (complex type) (complex { type with sequence := own }) .nothing := by
  obtain ⟨hresolved, hnone⟩ := hconsistent.recorded hsome
  have hfault : (complex type).fault? find parent = none :=
    fault?_eq_none_iff.mpr (fault?_eq_none_iff.mp hnone)
  have hown : own = type.sequence := by
    rw [hown.resolved rfl]
    have h := congrArg (fun d => d.complexType?.bind (·.sequence)) hresolved
    simpa [resolved, annotate, ComplexType.annotate, complexType?] using h
  subst hown
  exact ⟨by simp [declaredRemainder, hfault, hsome], rfl, hconsistent, rfl, fun _ => hresolved.symm,
    by simp⟩

/-- Preparing a derived complex type without a recorded base leaves its base to be resolved, if
there is no fault. -/
theorem prepared_of_derived {parent : Option Element} {type : ComplexType}
    {derivation : Derivation} {own inner : Option (List Element)} {fault : Option Fault}
    (hcontent : type.content = some derivation) (hnone : derivation.resolvedBase = none)
    (hown : SequenceResolved find type.sequence own none)
    (hinner : SequenceResolved find derivation.sequence inner fault) :
    (fault.elim ((derivation.baseFault? find parent).elim
        ((derivation.base? find).elim .nothing .base) .fault) .fault : Remainder) =
        (complex type).declaredRemainder find parent ∧
      Prepared find (complex type)
        (complex { type with
          sequence := own, content := some { derivation with sequence := inner } })
        ((complex type).declaredRemainder find parent) := by
  have hrecorded : (complex type).recordedBase? = none := by
    simp [recordedBase?, derivation?, complexType?, hcontent, hnone]
  have hbase : (complex type).base? find = derivation.base? find := by
    simp [base?, derivation?, complexType?, hcontent]
  have hfault : (complex type).fault? find parent =
      fault.or (derivation.baseFault? find parent) := by
    rw [fault?_complex, ← hown.fault_eq, hcontent, Option.none_or, Option.bind_some,
      Option.bind_some, ← hinner.fault_eq]
  have hremainder : (fault.elim ((derivation.baseFault? find parent).elim
      ((derivation.base? find).elim .nothing .base) .fault) .fault : Remainder) =
      (complex type).declaredRemainder find parent := by
    rw [declaredRemainder, hfault, hrecorded, hbase]
    cases fault with
    | some fault => rfl
    | none => cases derivation.baseFault? find parent <;> rfl
  refine ⟨hremainder, ?_, ⟨fun element helement => ?_, fun hsome => ?_⟩, ?_, fun hnothing => ?_,
    fun base hsome => ?_⟩
  · simp [forget, annotate, ComplexType.annotate, Derivation.annotate, hcontent, hown.forget_eq,
      hinner.forget_eq]
  · rcases List.mem_append.mp helement with hmem | hmem
    · exact hown.consistent element hmem
    · exact hinner.consistent element hmem
  · simp [recordedBase?, derivation?, complexType?, hnone] at hsome
  · simp [recordedBase?, derivation?, complexType?, hcontent]
  · -- A derivation without fault names a base, so that something remains.
    rw [← hremainder] at hnothing
    cases fault with
    | some fault => simp at hnothing
    | none =>
      cases hbaseFault : derivation.baseFault? find parent with
      | some fault => simp [hbaseFault] at hnothing
      | none =>
        obtain ⟨base, hsome⟩ :=
          Option.isSome_iff_exists.mp (Derivation.baseFault?_eq_none_iff.mp hbaseFault)
        simp [hbaseFault, hsome] at hnothing
  · rw [← hremainder] at hsome
    cases fault with
    | some fault => simp at hsome
    | none =>
      cases hbaseFault : derivation.baseFault? find parent with
      | some fault => simp [hbaseFault] at hsome
      | none =>
        have hbase : derivation.base? find = some base := by
          cases h : derivation.base? find with
          | none => simp [hbaseFault, h] at hsome
          | some other => simpa [hbaseFault, h] using hsome
        simp [recordBase, resolved, annotate, ComplexType.annotate, Derivation.annotate, hcontent,
          hown.resolved rfl, hinner.resolved rfl, hbase]

/-- **Preparing a consistent declaration** finds its first fault, or else its base if that is
not recorded, and resolves what comes before. -/
theorem prepare_spec (parent : Option Element) {declaration : Declaration}
    (hconsistent : declaration.Consistent registry.findReferenced?) :
    (declaration.prepare registry parent).2 =
        declaration.declaredRemainder registry.findReferenced? parent ∧
      Prepared registry.findReferenced? declaration (declaration.prepare registry parent).1
        (declaration.prepare registry parent).2 := by
  cases declaration with
  | builtin type => exact ⟨rfl, rfl, hconsistent, rfl, fun _ => rfl, fun _ h => by cases h⟩
  | simple type => exact ⟨rfl, rfl, hconsistent, rfl, fun _ => rfl, fun _ h => by cases h⟩
  | complex type =>
    have hown : SequenceResolved registry.findReferenced? type.sequence
        (resolveSequence registry type.sequence).1 (resolveSequence registry type.sequence).2 :=
      resolveSequence_spec fun element helement =>
        hconsistent.elements element (List.mem_append_left _ helement)
    rcases hresult : resolveSequence registry type.sequence with ⟨own, _ | fault⟩
    · rw [hresult] at hown
      rcases hcontent : type.content with _ | derivation
      · have hprepare : type.prepare registry parent =
            ({ type with sequence := own }, .nothing) := by
          simp [ComplexType.prepare, hresult, hcontent]
        rw [prepare, hprepare]
        exact prepared_of_underived hcontent hown
      · by_cases hrecorded : derivation.resolvedBase.isSome
        · have hprepare : type.prepare registry parent =
              ({ type with sequence := own }, .nothing) := by
            simp [ComplexType.prepare, hresult, hcontent, Derivation.prepare, hrecorded]
          have hsome : (complex type).recordedBase?.isSome := by
            simpa [recordedBase?, derivation?, complexType?, hcontent] using hrecorded
          rw [prepare, hprepare]
          exact prepared_of_recorded hconsistent hsome hown
        · have hnone : derivation.resolvedBase = none := by simpa using hrecorded
          have hinner : SequenceResolved registry.findReferenced? derivation.sequence
              (resolveSequence registry derivation.sequence).1
              (resolveSequence registry derivation.sequence).2 :=
            resolveSequence_spec fun element helement => by
              refine hconsistent.elements element (List.mem_append_right _ ?_)
              simpa [hcontent] using helement
          have hprepare : type.prepare registry parent =
              ({ type with
                  sequence := own
                  content := some { derivation with
                    sequence := (resolveSequence registry derivation.sequence).1 } },
                (complex type).declaredRemainder registry.findReferenced? parent) := by
            rw [← (prepared_of_derived hcontent hnone hown hinner).1]
            simp [ComplexType.prepare, hresult, hcontent, Derivation.prepare_of_unrecorded hnone,
              Derivation.findBase_eq]
          rw [prepare, hprepare]
          exact ⟨rfl, (prepared_of_derived hcontent hnone hown hinner).2⟩
    · rw [hresult] at hown
      have hprepare : type.prepare registry parent =
          ({ type with sequence := own }, .fault fault) := by
        simp [ComplexType.prepare, hresult]
      rw [prepare, hprepare]
      exact prepared_of_fault hconsistent hown

end Declaration

end XsdDerivation
