import Mathlib.Data.List.Forall2
import XsdDerivation.Proofs.Consistent

/-!
# Recorded references

What resolving records in a declaration is written once. A visit leaves the ids of types, their
names and what they say alone, a recorded reference stays as it is, and a newly recorded one is
what the reference names. The base of a derivation is recorded last, so that a recorded base shows
that all elements have been dealt with.
-/

namespace XsdDerivation

variable {find : String → Option TypeId} {registry : Registry}

/-! ### Elements -/

namespace Element

/-- The second element is the first one, except that the type which its reference names may have
been recorded. -/
structure Records (find : String → Option TypeId) (before after : Element) : Prop where
  /-- The declared parts stay. -/
  forget_eq : after.forget = before.forget
  /-- A recorded type stays. -/
  kept : ∀ type, before.resolvedType = some type → after.resolvedType = some type
  /-- A newly recorded type is the one that the reference names. -/
  named : ∀ type, before.resolvedType = none → after.resolvedType = some type →
    ∃ reference, before.typeReference = some reference ∧ find reference = some type

/-- The type that the element names, if it names one, has been recorded. -/
def IsRecorded (element : Element) : Prop :=
  element.typeReference ≠ none → element.resolvedType ≠ none

variable {element before middle after : Element}

theorem Records.refl (element : Element) : element.Records find element where
  forget_eq := rfl
  kept _ htype := htype
  named _ hnone htype := by
    rw [hnone] at htype
    cases htype

theorem Records.typeReference_eq (hrecords : before.Records find after) :
    after.typeReference = before.typeReference := by
  have hforget := congrArg Element.typeReference hrecords.forget_eq
  exact hforget

theorem Records.trans (hfirst : before.Records find middle) (hsecond : middle.Records find after) :
    before.Records find after where
  forget_eq := hsecond.forget_eq.trans hfirst.forget_eq
  kept type htype := hsecond.kept type (hfirst.kept type htype)
  named type hnone htype := by
    cases hmiddle : middle.resolvedType with
    | some recorded =>
      have hkept := hsecond.kept recorded hmiddle
      rw [htype, Option.some.injEq] at hkept
      exact hfirst.named type hnone (hkept ▸ hmiddle)
    | none =>
      rw [← hfirst.typeReference_eq]
      exact hsecond.named type hmiddle htype

theorem Records.forall₂_trans {elements changed last : List Element}
    (hfirst : List.Forall₂ (Records find) elements changed)
    (hsecond : List.Forall₂ (Records find) changed last) :
    List.Forall₂ (Records find) elements last := by
  induction hfirst generalizing last with
  | nil => exact hsecond
  | cons hhead _ ih =>
    cases hsecond with
    | cons hother hrest => exact .cons (hhead.trans hother) (ih hrest)

/-- An element that has its type recorded keeps it. -/
theorem Records.isRecorded (hrecords : before.Records find after) (hbefore : before.IsRecorded) :
    after.IsRecorded := by
  intro hreference
  rw [hrecords.typeReference_eq] at hreference
  obtain ⟨type, htype⟩ := Option.ne_none_iff_exists'.mp (hbefore hreference)
  rw [hrecords.kept type htype]
  exact Option.some_ne_none type

/-- Resolving an element records the type that its reference names, or nothing. -/
theorem records_resolve (registry : Registry) (element : Element) :
    element.Records registry.findReferenced? (element.resolve registry).1 := by
  unfold resolve
  split
  · rename_i reference hreference hnone
    cases hfind : registry.findReferenced? reference with
    | none => exact .refl element
    | some id =>
      refine ⟨rfl, fun type htype => ?_, fun type _ htype => ⟨reference, hreference, ?_⟩⟩
      · rw [hnone] at htype
        cases htype
      · rw [hfind]
        exact htype
  · exact .refl element

/-- An element in which no fault is found has its type recorded afterwards. -/
theorem isRecorded_resolve (hfault : (element.resolve registry).2 = none) :
    (element.resolve registry).1.IsRecorded := by
  unfold resolve at hfault ⊢
  split
  · rename_i reference hreference hnone
    cases hfind : registry.findReferenced? reference with
    | none => simp [hreference, hnone, hfind] at hfault
    | some id => exact fun _ => Option.some_ne_none id
  · rename_i hother
    intro hreference hnone
    obtain ⟨reference, hsome⟩ := Option.ne_none_iff_exists'.mp hreference
    exact hother reference hsome hnone

end Element

/-- Resolving elements records the types that their references name, or nothing. -/
theorem records_resolveElements (registry : Registry) (elements : List Element) :
    List.Forall₂ (Element.Records registry.findReferenced?) elements
      (resolveElements registry elements).1 := by
  induction elements with
  | nil => exact .nil
  | cons element rest ih =>
    have hhead := element.records_resolve registry
    rw [resolveElements]
    generalize element.resolve registry = result at hhead
    rcases result with ⟨changed, _ | fault⟩
    · exact .cons hhead ih
    · exact .cons hhead (List.forall₂_same.mpr fun other _ => .refl other)

/-- Elements in which no fault is found have their types recorded afterwards. -/
theorem isRecorded_resolveElements {elements : List Element}
    (hfault : (resolveElements registry elements).2 = none) :
    ∀ element ∈ (resolveElements registry elements).1, element.IsRecorded := by
  induction elements with
  | nil =>
    intro element helement
    cases helement
  | cons first rest ih =>
    have hhead (hnone : (first.resolve registry).2 = none) :
        (first.resolve registry).1.IsRecorded := first.isRecorded_resolve hnone
    rw [resolveElements] at hfault ⊢
    generalize first.resolve registry = result at hfault hhead ⊢
    rcases result with ⟨changed, _ | fault⟩
    · intro element helement
      rcases List.mem_cons.mp helement with rfl | helement
      · exact hhead rfl
      · exact ih hfault element helement
    · cases hfault

/-- Resolving a sequence, present or absent, records the types that are named, or nothing. -/
theorem records_resolveSequence (registry : Registry) (sequence : Option (List Element)) :
    List.Forall₂ (Element.Records registry.findReferenced?) (sequence.getD [])
      ((resolveSequence registry sequence).1.getD []) := by
  cases sequence with
  | none => exact .nil
  | some elements => exact records_resolveElements registry elements

theorem isRecorded_resolveSequence {sequence : Option (List Element)}
    (hfault : (resolveSequence registry sequence).2 = none) :
    ∀ element ∈ (resolveSequence registry sequence).1.getD [], element.IsRecorded := by
  cases sequence with
  | none =>
    intro element helement
    cases helement
  | some elements => exact isRecorded_resolveElements hfault

/-! ### Declarations -/

/-- A derivation names a base only by a reference that stands for it. -/
theorem Derivation.find_of_base? {derivation : Derivation} {base : TypeId}
    (hbase : derivation.base? find = some base) : find derivation.base = some base := by
  unfold base? at hbase
  split at hbase
  · cases hbase
  · exact hbase

/-- Preparing a derivation records the types that its elements name, or nothing. -/
theorem Derivation.records_prepare (registry : Registry) (parent : Option Element)
    (derivation : Derivation) :
    List.Forall₂ (Element.Records registry.findReferenced?) (derivation.sequence.getD [])
      ((derivation.prepare registry parent).1.sequence.getD []) := by
  cases hrecorded : derivation.resolvedBase with
  | some base =>
    rw [prepare, hrecorded]
    exact List.forall₂_same.mpr fun element _ => .refl element
  | none =>
    rw [prepare_of_unrecorded hrecorded]
    exact records_resolveSequence registry derivation.sequence

/-- In a derivation without a fault all elements have their types recorded afterwards, if this is
so where a base has been recorded before. -/
theorem Derivation.isRecorded_prepare {parent : Option Element} {derivation : Derivation}
    (hfault : (derivation.prepare registry parent).2.fault? = none)
    (hcomplete : derivation.resolvedBase ≠ none →
      ∀ element ∈ derivation.sequence.getD [], element.IsRecorded) :
    ∀ element ∈ (derivation.prepare registry parent).1.sequence.getD [], element.IsRecorded := by
  cases hrecorded : derivation.resolvedBase with
  | some base =>
    rw [prepare, hrecorded]
    exact hcomplete (by rw [hrecorded]; exact Option.some_ne_none base)
  | none =>
    rw [prepare_of_unrecorded hrecorded] at hfault ⊢
    refine isRecorded_resolveSequence ?_
    cases hsequence : (resolveSequence registry derivation.sequence).2 with
    | none => rfl
    | some fault =>
      rw [hsequence] at hfault
      cases hfault

namespace Declaration

/-- The second declaration is the first one, except that types which its references name may have
been recorded. -/
structure Records (find : String → Option TypeId) (before after : Declaration) : Prop where
  /-- The declared parts stay. -/
  forget_eq : after.forget = before.forget
  /-- Each element is the one that it was, or has got its type recorded. -/
  elements : List.Forall₂ (Element.Records find) before.declaredElements after.declaredElements
  /-- A recorded base stays. -/
  kept : ∀ base, before.recordedBase? = some base → after.recordedBase? = some base
  /-- A newly recorded base is the one that the base reference names. -/
  named : ∀ base, before.recordedBase? = none → after.recordedBase? = some base →
    before.base? find = some base

/-- What is recorded in the declaration are ids below `size`, and a base is recorded only where
every element has its type recorded. -/
structure Coherent (size : Nat) (declaration : Declaration) : Prop where
  /-- The recorded base is in use. -/
  base : ∀ base, declaration.recordedBase? = some base → base.index < size
  /-- The recorded types of elements are in use. -/
  elements : ∀ element ∈ declaration.declaredElements, ∀ type,
    element.resolvedType = some type → type.index < size
  /-- A recorded base comes last. -/
  complete : declaration.recordedBase? ≠ none →
    ∀ element ∈ declaration.declaredElements, element.IsRecorded

variable {declaration before middle after prepared : Declaration} {size larger : Nat}
  {parent : Option Element} {remainder : Remainder} {base : TypeId}

theorem Records.refl (declaration : Declaration) : declaration.Records find declaration where
  forget_eq := rfl
  elements := List.forall₂_same.mpr fun element _ => .refl element
  kept _ hbase := hbase
  named _ hnone hbase := by
    rw [hnone] at hbase
    cases hbase

theorem Records.base?_eq (hrecords : before.Records find after) :
    after.base? find = before.base? find := by
  rw [← after.base?_forget, hrecords.forget_eq, before.base?_forget]

theorem Records.trans (hfirst : before.Records find middle) (hsecond : middle.Records find after) :
    before.Records find after where
  forget_eq := hsecond.forget_eq.trans hfirst.forget_eq
  elements := Element.Records.forall₂_trans hfirst.elements hsecond.elements
  kept base hbase := hsecond.kept base (hfirst.kept base hbase)
  named base hnone hbase := by
    cases hmiddle : middle.recordedBase? with
    | some recorded =>
      have hkept := hsecond.kept recorded hmiddle
      rw [hbase, Option.some.injEq] at hkept
      exact hfirst.named base hnone (hkept ▸ hmiddle)
    | none =>
      rw [← hfirst.base?_eq]
      exact hsecond.named base hmiddle hbase

/-- Elements that all have their types recorded keep them. -/
theorem Records.isRecorded (hrecords : before.Records find after)
    (hbefore : ∀ element ∈ before.declaredElements, element.IsRecorded) :
    ∀ element ∈ after.declaredElements, element.IsRecorded := by
  have helements := hrecords.elements
  generalize before.declaredElements = elements at hbefore helements
  generalize after.declaredElements = changed at helements
  induction helements with
  | nil => exact hbefore
  | cons hhead _ ih =>
    rw [List.forall_mem_cons] at hbefore ⊢
    exact ⟨hhead.isRecorded hbefore.1, ih hbefore.2⟩

/-- Preparing a declaration records the types that its elements name, or nothing. -/
theorem records_prepare (registry : Registry) (parent : Option Element)
    (declaration : Declaration) :
    declaration.Records registry.findReferenced? (declaration.prepare registry parent).1 := by
  obtain ⟨hforget, hrecorded⟩ := declaration.prepare_forget registry parent
  refine ⟨hforget, ?_, fun base hbase => hrecorded.trans hbase, fun base hnone hbase => ?_⟩
  · cases declaration with
    | builtin => exact .nil
    | simple => exact .nil
    | complex type =>
      have hown := records_resolveSequence registry type.sequence
      have hkept : List.Forall₂ (Element.Records registry.findReferenced?)
          ((type.content.bind (·.sequence)).getD []) ((type.content.bind (·.sequence)).getD []) :=
        List.forall₂_same.mpr fun element _ => .refl element
      rw [prepare, ComplexType.prepare]
      generalize resolveSequence registry type.sequence = result at hown
      rcases result with ⟨own, _ | fault⟩
      · cases hcontent : type.content with
        | none => exact List.rel_append hown (hcontent ▸ hkept)
        | some derivation =>
          refine List.rel_append hown ?_
          rw [hcontent] at hkept ⊢
          exact derivation.records_prepare registry parent
      · exact List.rel_append hown hkept
  · rw [hrecorded, hnone] at hbase
    cases hbase

/-- In a type of which the base remains to be resolved, or nothing, all elements have their types
recorded. -/
theorem isRecorded_prepare (hprepare : declaration.prepare registry parent = (prepared, remainder))
    (hfault : remainder.fault? = none)
    (hcomplete : declaration.recordedBase? ≠ none →
      ∀ element ∈ declaration.declaredElements, element.IsRecorded) :
    ∀ element ∈ prepared.declaredElements, element.IsRecorded := by
  cases declaration with
  | builtin =>
    cases hprepare
    intro element helement
    cases helement
  | simple =>
    cases hprepare
    intro element helement
    cases helement
  | complex type =>
    have hown (hnone : (resolveSequence registry type.sequence).2 = none) :
        ∀ element ∈ (resolveSequence registry type.sequence).1.getD [], element.IsRecorded :=
      isRecorded_resolveSequence hnone
    rw [prepare, ComplexType.prepare] at hprepare
    generalize resolveSequence registry type.sequence = result at hown hprepare
    rcases result with ⟨own, _ | fault⟩
    · cases hcontent : type.content with
      | none =>
        simp only [hcontent, Prod.mk.injEq] at hprepare
        obtain ⟨rfl, -⟩ := hprepare
        intro element helement
        exact hown rfl element (by simpa [declaredElements, complexType?,
          ComplexType.declaredElements, hcontent] using helement)
      | some derivation =>
        simp only [hcontent, Prod.mk.injEq] at hprepare
        obtain ⟨rfl, rfl⟩ := hprepare
        intro element helement
        rcases List.mem_append.mp helement with helement | helement
        · exact hown rfl element helement
        · refine derivation.isRecorded_prepare hfault (fun hrecorded other hother => ?_) element
            helement
          refine hcomplete ?_ other (List.mem_append_right _ ?_)
          · simpa [recordedBase?, derivation?, complexType?, hcontent] using hrecorded
          · rw [hcontent]
            exact hother
    · cases hprepare
      cases hfault

/-- Recording the base that a declaration names keeps all else. -/
theorem records_recordBase (hnone : declaration.recordedBase? = none)
    (hbase : declaration.base? find = some base) :
    declaration.Records find (declaration.recordBase base) := by
  refine ⟨declaration.forget_recordBase base, ?_, fun other hother => ?_, fun other _ hother => ?_⟩
  · rw [recordBase_eq_annotate, declaredElements_annotate, List.map_id']
    exact List.forall₂_same.mpr fun element _ => .refl element
  · rw [hnone] at hother
    cases hother
  · rw [recordedBase?_recordBase] at hother
    obtain ⟨_, _, rfl⟩ := Option.map_eq_some_iff.mp hother
    exact hbase

/-! ### Coherent declarations -/

/-- A declaration in which nothing is recorded is coherent. -/
theorem coherent_of_forget (hforget : declaration.forget = declaration) :
    declaration.Coherent size := by
  have hrecorded : declaration.recordedBase? = none := by
    rw [← hforget, recordedBase?_forget]
  refine ⟨fun base hbase => ?_, fun element helement type htype => ?_, fun hbase => ?_⟩
  · rw [hrecorded] at hbase
    cases hbase
  · rw [← hforget, forget, declaredElements_annotate] at helement
    obtain ⟨declared, _, rfl⟩ := List.mem_map.mp helement
    cases htype
  · exact absurd hrecorded hbase

/-- More ids may come into use. -/
theorem Coherent.mono (hcoherent : declaration.Coherent size) (hsize : size ≤ larger) :
    declaration.Coherent larger where
  base base hbase := Nat.lt_of_lt_of_le (hcoherent.base base hbase) hsize
  elements element helement type htype :=
    Nat.lt_of_lt_of_le (hcoherent.elements element helement type htype) hsize
  complete := hcoherent.complete

/-- Recording what references name keeps a declaration coherent as long as the base comes last. -/
theorem Coherent.of_records (hcoherent : before.Coherent size)
    (hrecords : before.Records find after)
    (hfind : ∀ reference id, find reference = some id → id.index < size)
    (hcomplete : after.recordedBase? ≠ none →
      ∀ element ∈ after.declaredElements, element.IsRecorded) : after.Coherent size := by
  refine ⟨fun base hbase => ?_, ?_, hcomplete⟩
  · cases hbefore : before.recordedBase? with
    | some recorded =>
      have hkept := hrecords.kept recorded hbefore
      rw [hbase, Option.some.injEq] at hkept
      exact hcoherent.base base (hkept ▸ hbefore)
    | none =>
      obtain ⟨derivation, _, hnamed⟩ :=
        Option.bind_eq_some_iff.mp (hrecords.named base hbefore hbase)
      exact hfind _ base (Derivation.find_of_base? hnamed)
  · have hbounds := hcoherent.elements
    have helements := hrecords.elements
    generalize before.declaredElements = elements at hbounds helements
    generalize after.declaredElements = changed at helements
    induction helements with
    | nil => exact hbounds
    | @cons element other _ _ hhead _ ih =>
      rw [List.forall_mem_cons] at hbounds ⊢
      refine ⟨fun type htype => ?_, ih hbounds.2⟩
      cases hbefore : element.resolvedType with
      | some recorded =>
        have hkept := hhead.kept recorded hbefore
        rw [htype, Option.some.injEq] at hkept
        exact hbounds.1 type (hkept ▸ hbefore)
      | none =>
        obtain ⟨reference, _, hnamed⟩ := hhead.named type hbefore htype
        exact hfind reference type hnamed

end Declaration

/-! ### Registries -/

namespace Registry

/-- The second registry has the types of the first one under the same ids and names, except that
types which their references name may have been recorded. -/
structure Records (find : String → Option TypeId) (before after : Registry) : Prop where
  /-- Types keep their names. -/
  names : ∀ id name, before.nameOf? id = some name → after.nameOf? id = some name
  /-- Types keep what they say and what is recorded in them. -/
  types : ∀ id declaration, before.get? id = some declaration →
    ∃ changed, after.get? id = some changed ∧ declaration.Records find changed

/-- All declarations of the registry are coherent. -/
def Coherent (registry : Registry) : Prop :=
  ∀ id declaration, registry.get? id = some declaration → declaration.Coherent registry.size

variable {before middle after other : Registry} {id base : TypeId}
  {declaration prepared : Declaration} {name : QualifiedName}

theorem Records.refl (registry : Registry) : Records find registry registry where
  names _ _ hname := hname
  types _ declaration hget := ⟨declaration, hget, .refl declaration⟩

theorem Records.trans (hfirst : Records find before middle) (hsecond : Records find middle after) :
    Records find before after where
  names id name hname := hsecond.names id name (hfirst.names id name hname)
  types id declaration hget := by
    obtain ⟨changed, hchanged, hrecords⟩ := hfirst.types id declaration hget
    obtain ⟨last, hlast, hrecords'⟩ := hsecond.types id changed hchanged
    exact ⟨last, hlast, hrecords.trans hrecords'⟩

@[simp] theorem nameOf?_forget (id : TypeId) :
    registry.forget.nameOf? id = registry.nameOf? id := by
  simp [nameOf?, forget, mapDeclarations, Function.comp_def]

/-- Registries with the same declarations have the same names. -/
theorem nameOf?_eq_of_forget (hsame : registry.forget = other.forget) :
    registry.nameOf? = other.nameOf? := by
  funext id
  rw [← nameOf?_forget, hsame, nameOf?_forget]

/-- The references of an indexed registry stand for ids in use. -/
theorem Indexed.lt_size_of_find (hindexed : registry.Indexed) (reference : String) (id : TypeId)
    (hfind : registry.findReferenced? reference = some id) : id.index < registry.size :=
  get?_ne_none_iff.mp (hindexed.get?_ne_none hfind)

/-- A change of one declaration that records what its references name. -/
theorem records_replace (hget : registry.get? id = some declaration)
    (hrecords : declaration.Records find prepared) :
    Records find registry (registry.replace id prepared) where
  names other name hname := by
    have hforget := forget_replace hget hrecords.forget_eq
    rw [nameOf?_eq_of_forget hforget, hname]
  types other found hfound := by
    by_cases heq : other = id
    · subst heq
      rw [hget, Option.some.injEq] at hfound
      subst hfound
      exact ⟨prepared, get?_replace_self hget, hrecords⟩
    · exact ⟨found, (get?_replace_of_ne heq).trans hfound, .refl found⟩

/-- A change of one declaration that leaves it coherent. -/
theorem Coherent.replace (hcoherent : registry.Coherent)
    (hget : registry.get? id = some declaration)
    (hprepared : prepared.Coherent registry.size) : (registry.replace id prepared).Coherent := by
  intro other found hfound
  rw [size_replace]
  by_cases heq : other = id
  · subst heq
    rw [get?_replace_self hget, Option.some.injEq] at hfound
    exact hfound ▸ hprepared
  · rw [get?_replace_of_ne heq] at hfound
    exact hcoherent other found hfound

end Registry

/-! ### Visits -/

namespace Visit

variable {parent : Option Element} {run after : Run} {id base : TypeId} {fault : Option Fault}
  {declaration prepared : Declaration} {remainder : Remainder}

/-- What the declaration of a type is when its base has been visited: it names the base, and no base
is recorded. -/
theorem prepared_base
    (hprepare : declaration.prepare run.registry parent = (prepared, .base base)) :
    prepared.recordedBase? = none ∧
      prepared.base? run.registry.findReferenced? = some base := by
  have hnamed : (declaration.prepare run.registry parent).2.base? = some base := by
    rw [hprepare]
    rfl
  obtain ⟨hbase, hnone⟩ := Declaration.base_of_prepare hnamed
  have hrecords := declaration.records_prepare run.registry parent
  have hkept := (declaration.prepare_forget run.registry parent).2
  rw [hprepare] at hrecords hkept
  exact ⟨hkept.trans hnone, hrecords.base?_eq.trans hbase⟩

/-- Beginning a visit records what the references of the type name. -/
theorem records_enter (hopens : run.Opens id declaration)
    (hprepare : declaration.prepare run.registry parent = (prepared, remainder)) :
    Registry.Records run.registry.findReferenced? run.registry
      (run.enter id prepared).registry := by
  have hrecords := declaration.records_prepare run.registry parent
  rw [hprepare] at hrecords
  exact Registry.records_replace hopens.get? hrecords

/-- Recording the base of a type after its visit records what the base reference names. -/
theorem records_recordBase (hopens : run.Opens id declaration)
    (hprepare : declaration.prepare run.registry parent = (prepared, .base base))
    (hbase : Visit parent (run.enter id prepared) base after none) :
    Registry.Records run.registry.findReferenced? after.registry
      (after.recordBase id base).registry := by
  obtain ⟨hnone, hnamed⟩ := prepared_base hprepare
  have hget := get?_prepared hopens hbase
  unfold Run.recordBase Registry.recordBase
  rw [hget]
  split
  · exact .refl after.registry
  · exact Registry.records_replace hget (Declaration.records_recordBase hnone hnamed)

/-- **A visit writes once.** It records what references name where nothing has been recorded. -/
theorem records (hvisit : Visit parent run id after fault) :
    Registry.Records run.registry.findReferenced? run.registry after.registry := by
  induction hvisit with
  | settled => exact .refl _
  | missing => exact .refl _
  | circular => exact .refl _
  | plain hopens hprepare => exact records_enter hopens hprepare
  | faulty hopens hprepare => exact records_enter hopens hprepare
  | stuck hopens hprepare _ ih => exact (records_enter hopens hprepare).trans ih
  | derived hopens hprepare hbase ih =>
    have hentered := records_enter hopens hprepare
    exact (hentered.trans ih).trans (records_recordBase hopens hprepare hbase)

/-- Beginning a visit leaves the registry coherent. -/
theorem coherent_enter (hindexed : run.registry.Indexed) (hcoherent : run.registry.Coherent)
    (hopens : run.Opens id declaration)
    (hprepare : declaration.prepare run.registry parent = (prepared, remainder)) :
    (run.enter id prepared).registry.Coherent := by
  have hrecords := declaration.records_prepare run.registry parent
  have hkept := (declaration.prepare_forget run.registry parent).2
  rw [hprepare] at hrecords hkept
  have hbefore := hcoherent id declaration hopens.get?
  refine hcoherent.replace hopens.get? (hbefore.of_records hrecords hindexed.lt_size_of_find ?_)
  intro hrecorded
  rw [hkept] at hrecorded
  exact hrecords.isRecorded (hbefore.complete hrecorded)

/-- **A visit keeps a registry coherent**: it records a base only after the elements. -/
theorem coherent (hvisit : Visit parent run id after fault) (hindexed : run.registry.Indexed)
    (hcoherent : run.registry.Coherent) : after.registry.Coherent := by
  induction hvisit with
  | settled => exact hcoherent
  | missing => exact hcoherent
  | circular => exact hcoherent
  | plain hopens hprepare => exact coherent_enter hindexed hcoherent hopens hprepare
  | faulty hopens hprepare => exact coherent_enter hindexed hcoherent hopens hprepare
  | stuck hopens hprepare _ ih =>
    have hsame := Registry.forget_replace hopens.get? (Run.Opens.forget_prepared hprepare)
    exact ih (hindexed.of_forget hsame) (coherent_enter hindexed hcoherent hopens hprepare)
  | @derived run after id base declaration prepared hopens hprepare hbase ih =>
    have hsame := Registry.forget_replace hopens.get? (Run.Opens.forget_prepared hprepare)
    have hafter := ih (hindexed.of_forget hsame) (coherent_enter hindexed hcoherent hopens hprepare)
    obtain ⟨hnone, hnamed⟩ := prepared_base hprepare
    have hget := get?_prepared hopens hbase
    have hsize : after.registry.size = run.registry.size :=
      Registry.size_eq_of_forget (hbase.forget_eq.trans hsame)
    -- The visit of the type itself has dealt with all its elements.
    have hrecorded : ∀ element ∈ prepared.declaredElements, element.IsRecorded :=
      Declaration.isRecorded_prepare hprepare rfl
        (hcoherent id declaration hopens.get?).complete
    have hbased : (prepared.recordBase base).Coherent after.registry.size := by
      refine (hafter id prepared hget).of_records (Declaration.records_recordBase hnone hnamed)
        (hsize ▸ hindexed.lt_size_of_find) fun _ => ?_
      exact (Declaration.records_recordBase hnone hnamed).isRecorded hrecorded
    unfold Run.complete Run.recordBase Registry.recordBase
    rw [hget]
    split
    · exact hafter
    · exact hafter.replace hget hbased

end Visit

end XsdDerivation
