import XsdDerivation.Proofs.Finality
import XsdDerivation.Proofs.Rewriting
import XsdDerivation.Proofs.TextContent

/-!
# The spelling of references

A reference is a text, and several texts may name one type: through another prefix of the same
namespace, without a prefix in the target namespace, or with blanks around. Two registries that
differ in such texts only, or in texts that name no type at all, compile alike. The texts come back
in the faults that are about them and in the elements of the schema, and nowhere else.
-/

namespace XsdDerivation

/-! ### Leaving out texts -/

/-- The element without the text of its type reference. -/
def Element.unspelled (element : Element) : Element :=
  { element with typeReference := element.typeReference.map fun _ => "" }

theorem Element.identifier_unspelled (element : Element) :
    element.unspelled.identifier = element.identifier := rfl

/-- The declaration without the texts of its references. -/
def Declaration.unspelled : Declaration → Declaration :=
  rewrite Element.unspelled fun derivation => ("", derivation.resolvedBase)

/-- The compiled type without the texts of references. -/
def CompiledType.unspelled (type : CompiledType) : CompiledType :=
  { type with elements := type.elements.map Element.unspelled }

/-- The fault without the text of a reference. -/
def Fault.unspelled : Fault → Fault
  | unknownBase _ position => .unknownBase "" position
  | unknownElementType _ element position => .unknownElementType "" element position
  | fault => fault

/-- What compiling gives, without the texts of references. -/
def unspelledOutcome : Except (List Fault) Schema → Except (List Fault) Schema
  | .ok schema => .ok (.ofTypes (schema.types.map CompiledType.unspelled))
  | .error faults => .error (faults.map Fault.unspelled)

/-! ### Declarations with other texts -/

variable {same : String → String → Prop} {find find' : String → Option TypeId}

/-- The elements differ in the texts of their type references only. -/
structure Element.Respells (same : String → String → Prop) (element other : Element) : Prop where
  /-- Apart from the texts the elements are equal. -/
  unspelled_eq : other.unspelled = element.unspelled
  /-- The texts are to mean the same. -/
  reference : ∀ text ∈ element.typeReference, ∀ text' ∈ other.typeReference, same text text'

/-- The base references differ in their texts only. -/
structure Derivation.Respells (same : String → String → Prop) (derivation other : Derivation) :
    Prop where
  /-- The texts are to mean the same. -/
  base : same derivation.base other.base
  /-- If one of them is blank so is the other one. -/
  isBlank_eq : Reference.isBlank other.base = Reference.isBlank derivation.base

/-- The declarations differ in the texts of their references only. -/
structure Declaration.Respells (same : String → String → Prop) (declaration other : Declaration) :
    Prop where
  /-- Apart from the texts the declarations are equal. -/
  unspelled_eq : other.unspelled = declaration.unspelled
  /-- The texts of corresponding elements are to mean the same. -/
  elements : List.Forall₂ (Element.Respells same) declaration.declaredElements
    other.declaredElements
  /-- So are those of the base references. -/
  derivation : ∀ derivation ∈ declaration.derivation?, ∀ derivation' ∈ other.derivation?,
    derivation.Respells same derivation'

theorem Declaration.Respells.refl (hsame : ∀ text, same text text) (declaration : Declaration) :
    declaration.Respells same declaration where
  unspelled_eq := rfl
  elements := List.forall₂_same.mpr fun element _ => ⟨rfl, fun text htext text' htext' => by
    rw [Option.mem_unique htext htext']
    exact hsame text'⟩
  derivation derivation hderived derivation' hderived' := by
    rw [Option.mem_unique hderived hderived']
    exact ⟨hsame _, rfl⟩

/-- A type with another text for its base and elements with other texts. -/
theorem Declaration.Respells.extending {name base base' : String}
    {elements elements' : List Element} (hbase : same base base')
    (hblank : Reference.isBlank base' = Reference.isBlank base)
    (helements : List.Forall₂ (Element.Respells same) elements elements') :
    (Declaration.extending name base (some elements)).Respells same
      (Declaration.extending name base' (some elements')) where
  unspelled_eq := by
    have hunspelled : elements.map Element.unspelled = elements'.map Element.unspelled := by
      rw [← List.forall₂_eq_eq_eq]
      exact List.rel_map (fun _ _ hrespells => hrespells.unspelled_eq.symm) helements
    simp [unspelled, Declaration.extending, rewrite, ComplexType.rewrite, ComplexType.ofDerivation,
      Derivation.rewrite, hunspelled]
  elements := helements
  derivation := by
    rintro _ hderived _ hderived'
    obtain rfl := Option.some.inj hderived
    obtain rfl := Option.some.inj hderived'
    exact ⟨hbase, hblank⟩

theorem Declaration.name_extending {name base : String} {sequence : Option (List Element)} :
    (extending name base sequence).name = name := rfl

section Declarations

variable {element other : Element} {declaration declaration' : Declaration}

/-- Elements with other texts both name a type or both name none. -/
theorem Element.Respells.typeReference_cases (hrespells : element.Respells same other) :
    (element.typeReference = none ∧ other.typeReference = none) ∨
      ∃ text text', element.typeReference = some text ∧ other.typeReference = some text' ∧
        same text text' := by
  have hnamed : other.typeReference.map (fun _ => "") = element.typeReference.map fun _ => "" :=
    congrArg Element.typeReference hrespells.unspelled_eq
  have hsame := hrespells.reference
  cases helement : element.typeReference with
  | none =>
    rw [helement, Option.map_none] at hnamed
    exact .inl ⟨rfl, Option.map_eq_none_iff.mp hnamed⟩
  | some text =>
    rw [helement, Option.map_some] at hnamed
    obtain ⟨text', hother, _⟩ := Option.map_eq_some_iff.mp hnamed
    exact .inr ⟨text, text', rfl, hother, hsame text helement text' hother⟩

theorem Declaration.Respells.name_eq (hrespells : declaration.Respells same declaration') :
    declaration'.name = declaration.name := by
  have hname := congrArg Declaration.name hrespells.unspelled_eq
  rwa [Declaration.unspelled, Declaration.name_rewrite, Declaration.name_rewrite] at hname

/-- Declarations with other texts both are derived or both are not. -/
theorem Declaration.Respells.derivation?_cases
    (hrespells : declaration.Respells same declaration') :
    (declaration.derivation? = none ∧ declaration'.derivation? = none) ∨
      ∃ derivation derivation', declaration.derivation? = some derivation ∧
        declaration'.derivation? = some derivation' ∧ derivation.Respells same derivation' ∧
        derivation'.position = derivation.position := by
  have hderived := congrArg Declaration.derivation? hrespells.unspelled_eq
  rw [Declaration.unspelled, Declaration.derivation?_rewrite, Declaration.derivation?_rewrite]
    at hderived
  cases hfirst : declaration.derivation? with
  | none =>
    rw [hfirst, Option.map_none] at hderived
    exact .inl ⟨rfl, Option.map_eq_none_iff.mp hderived⟩
  | some derivation =>
    rw [hfirst, Option.map_some] at hderived
    obtain ⟨derivation', hsecond, heq⟩ := Option.map_eq_some_iff.mp hderived
    have hposition := congrArg Derivation.position heq
    exact .inr ⟨derivation, derivation', rfl, hsecond,
      hrespells.derivation derivation hfirst derivation' hsecond, hposition⟩

namespace Declaration

theorem forget_unspelled_resolved (declaration : Declaration) :
    (declaration.resolved find).unspelled.forget = declaration.unspelled.forget := by
  rw [unspelled, resolved, forget, annotate_eq_rewrite, annotate_eq_rewrite, rewrite_rewrite,
    rewrite_rewrite, rewrite_rewrite]
  rfl

theorem declaredElements_unspelled_resolved (declaration : Declaration) :
    (declaration.resolved find).unspelled.declaredElements =
      declaration.declaredElements.map fun element => (element.resolved find).unspelled := by
  rw [unspelled, declaredElements_rewrite, resolved, declaredElements_annotate, List.map_map]
  rfl

theorem isMixed_unspelled (declaration : Declaration) :
    declaration.unspelled.isMixed = declaration.isMixed := by
  cases declaration <;> rfl

theorem isText_unspelled (declaration : Declaration) :
    declaration.unspelled.isText = declaration.isText := by
  cases declaration <;> rfl

theorem recordedBase?_unspelled (declaration : Declaration) :
    declaration.unspelled.recordedBase? = declaration.recordedBase? := by
  rw [recordedBase?, recordedBase?, unspelled, derivation?_rewrite, Option.bind_map]
  rfl

end Declaration

variable (hfind : ∀ text text', same text text' → find' text' = find text)

include hfind

namespace Element

/-- Resolved elements with other texts still differ in their texts only. -/
theorem Respells.unspelled_resolved (hrespells : element.Respells same other) :
    (other.resolved find').unspelled = (element.resolved find).unspelled := by
  have htype : other.typeReference.bind find' = element.typeReference.bind find := by
    rcases hrespells.typeReference_cases with ⟨hnone, hnone'⟩ | ⟨text, text', hsome, hsome', hsame⟩
    · rw [hnone, hnone', Option.bind_none, Option.bind_none]
    · rw [hsome, hsome', Option.bind_some, Option.bind_some, hfind text text' hsame]
  calc (other.resolved find').unspelled
      = { other.unspelled with resolvedType := other.typeReference.bind find' } := rfl
    _ = { element.unspelled with resolvedType := element.typeReference.bind find } := by
        rw [hrespells.unspelled_eq, htype]
    _ = (element.resolved find).unspelled := rfl

theorem Respells.fault?_eq (hrespells : element.Respells same other) :
    (other.fault? find').map Fault.unspelled = (element.fault? find).map Fault.unspelled := by
  have hplace : (other.unspelled.name, other.unspelled.position) =
      (element.unspelled.name, element.unspelled.position) := by
    rw [hrespells.unspelled_eq]
  obtain ⟨hname, hposition⟩ : other.name = element.name ∧ other.position = element.position :=
    Prod.mk.inj hplace
  unfold fault?
  rcases hrespells.typeReference_cases with ⟨hnone, hnone'⟩ | ⟨text, text', hsome, hsome', hsame⟩
  · rw [hnone, hnone', Option.bind_none, Option.bind_none]
  · rw [hsome, hsome', Option.bind_some, Option.bind_some, hfind text text' hsame, hname,
      hposition]
    split <;> rfl

end Element

theorem Derivation.Respells.base?_eq {derivation derivation' : Derivation}
    (hrespells : derivation.Respells same derivation') :
    derivation'.base? find' = derivation.base? find := by
  rw [base?, base?, hrespells.isBlank_eq, hfind _ _ hrespells.base]

theorem Derivation.Respells.baseFault?_eq {derivation derivation' : Derivation}
    (hrespells : derivation.Respells same derivation')
    (hposition : derivation'.position = derivation.position) (parent : Option Element) :
    (derivation'.baseFault? find' parent).map Fault.unspelled =
      (derivation.baseFault? find parent).map Fault.unspelled := by
  rw [baseFault?, baseFault?, hrespells.isBlank_eq, hfind _ _ hrespells.base, hposition]
  split
  · rfl
  · split <;> rfl

namespace Declaration

/-- Declarations with other texts name the same base. -/
theorem Respells.base?_eq (hrespells : declaration.Respells same declaration') :
    declaration'.base? find' = declaration.base? find := by
  rw [base?, base?]
  rcases hrespells.derivation?_cases with
    ⟨hnone, hnone'⟩ | ⟨derivation, derivation', hsome, hsome', hbase, _⟩
  · rw [hnone, hnone', Option.bind_none, Option.bind_none]
  · rw [hsome, hsome', Option.bind_some, Option.bind_some, hbase.base?_eq hfind]

/-- Declarations with other texts have the same fault, but for a text. -/
theorem Respells.fault?_eq (hrespells : declaration.Respells same declaration')
    (parent : Option Element) :
    (declaration'.fault? find' parent).map Fault.unspelled =
      (declaration.fault? find parent).map Fault.unspelled := by
  have helements : (declaration'.declaredElements.findSome? (Element.fault? find')).map
        Fault.unspelled =
      (declaration.declaredElements.findSome? (Element.fault? find)).map Fault.unspelled := by
    have hrelated := hrespells.elements
    generalize declaration.declaredElements = elements at hrelated
    generalize declaration'.declaredElements = elements' at hrelated
    induction hrelated with
    | nil => rfl
    | @cons element element' rest rest' hfirst _ ih =>
      have hfault := hfirst.fault?_eq hfind
      rw [List.findSome?_cons, List.findSome?_cons]
      cases hsecond : element.fault? find with
      | none =>
        rw [hsecond, Option.map_none, Option.map_eq_none_iff] at hfault
        rw [hfault]
        exact ih
      | some fault =>
        rw [hsecond, Option.map_some] at hfault
        obtain ⟨fault', hother, heq⟩ := Option.map_eq_some_iff.mp hfault
        rw [hother]
        exact congrArg some heq
  have hderived : (declaration'.derivation?.bind (Derivation.baseFault? find' parent)).map
        Fault.unspelled =
      (declaration.derivation?.bind (Derivation.baseFault? find parent)).map Fault.unspelled := by
    rcases hrespells.derivation?_cases with
      ⟨hnone, hnone'⟩ | ⟨derivation, derivation', hsome, hsome', hbase, hposition⟩
    · rw [hnone, hnone', Option.bind_none, Option.bind_none]
    · rw [hsome, hsome', Option.bind_some, Option.bind_some,
        hbase.baseFault?_eq hfind hposition parent]
  rw [fault?, fault?, Option.map_or, Option.map_or, helements, hderived]

/-- Resolved declarations with other texts still differ in their texts only. -/
theorem Respells.unspelled_resolved (hrespells : declaration.Respells same declaration') :
    (declaration'.resolved find').unspelled = (declaration.resolved find).unspelled := by
  refine eq_of_forget ?_ ?_ ?_
  · rw [forget_unspelled_resolved, forget_unspelled_resolved, hrespells.unspelled_eq]
  · rw [declaredElements_unspelled_resolved, declaredElements_unspelled_resolved, eq_comm,
      ← List.forall₂_eq_eq_eq]
    exact List.rel_map (fun _ _ hrespells => (hrespells.unspelled_resolved hfind).symm)
      hrespells.elements
  · rw [recordedBase?_unspelled, recordedBase?_unspelled, recordedBase?_resolved,
      recordedBase?_resolved, hrespells.base?_eq hfind]

end Declaration

end Declarations

namespace Lineage

theorem elements_unspelled (lineage : List Declaration) :
    elements (lineage.map Declaration.unspelled) = (elements lineage).map Element.unspelled :=
  elements_rewrite Element.identifier_unspelled lineage

theorem attributes_unspelled (lineage : List Declaration) :
    attributes (lineage.map Declaration.unspelled) = attributes lineage :=
  attributes_rewrite Element.identifier_unspelled lineage

end Lineage

/-! ### Registries with other texts -/

namespace Registry

variable {registry other : Registry} {id : TypeId} {declaration declaration' : Declaration}

/-- The registries differ in the texts of references only. -/
structure Respells (same : String → String → Prop) (registry other : Registry) : Prop where
  /-- Types with the same id have the same name, and their declarations differ in texts only. -/
  entries : List.Forall₂ (fun entry entry' => entry'.name = entry.name ∧
    entry.declaration.Respells same entry'.declaration)
    registry.entries.toList other.entries.toList
  /-- Names stand for the same ids. -/
  find?_eq : ∀ name, other.find? name = registry.find? name

/-- The text means in the first registry what the other text means in the second one: both stand for
one name, or both name no type. -/
def SameReference (registry other : Registry) (text text' : String) : Prop :=
  other.resolve? text' = registry.resolve? text ∨
    registry.findReferenced? text = none ∧ other.findReferenced? text' = none

/-- Once all bases are recorded a type carries text if it or one of its bases is mixed, or if the
values of the last of them are text. -/
def TextByBases (registry : Registry) : Prop :=
  ∀ id declaration, registry.get? id = some declaration →
    Lineage.containsText
        (registry.resolved.lineage (declaration.resolved registry.findReferenced?)) =
      ((id :: registry.resolved.baseChain id).any registry.isMixed ||
        (id :: registry.resolved.baseChain id).getLast?.any registry.isText)

theorem WellFormed.textByBases (hformed : registry.WellFormed) (hindexed : registry.Indexed)
    (hstring : registry.HasString) : registry.TextByBases := by
  intro id declaration hget
  have hbases := hformed.hasBases_baseChain hindexed (hget ▸ Option.some_ne_none declaration)
  exact hformed.containsText_lineage hstring hbases hget

namespace Respells

variable (hrespells : Respells same registry other)

include hrespells

theorem size_eq : other.size = registry.size := by
  have hlength := hrespells.entries.length_eq
  simpa [size] using hlength.symm

theorem ids_eq : other.ids = registry.ids := by
  rw [ids, ids, hrespells.size_eq]

/-- An id stands for a type in both registries or in none. -/
theorem getElem?_cases (index : Nat) :
    (registry.entries[index]? = none ∧ other.entries[index]? = none) ∨
      ∃ entry entry', registry.entries[index]? = some entry ∧
        other.entries[index]? = some entry' ∧ entry'.name = entry.name ∧
        entry.declaration.Respells same entry'.declaration := by
  obtain ⟨hlength, hrelated⟩ := List.forall₂_iff_get.mp hrespells.entries
  rw [Array.length_toList, Array.length_toList] at hlength
  by_cases hlt : index < registry.entries.size
  · have hlt' : index < other.entries.size := hlength ▸ hlt
    obtain ⟨hname, hdeclaration⟩ := hrelated index (by simpa using hlt) (by simpa using hlt')
    exact .inr ⟨_, _, Array.getElem?_eq_getElem hlt, Array.getElem?_eq_getElem hlt', hname,
      hdeclaration⟩
  · have hge := Nat.le_of_not_lt hlt
    exact .inl ⟨Array.getElem?_eq_none hge, Array.getElem?_eq_none (hlength ▸ hge)⟩

theorem get?_cases (id : TypeId) :
    (registry.get? id = none ∧ other.get? id = none) ∨
      ∃ declaration declaration', registry.get? id = some declaration ∧
        other.get? id = some declaration' ∧ declaration.Respells same declaration' := by
  rw [get?, get?]
  rcases hrespells.getElem?_cases id.index with
    ⟨hnone, hnone'⟩ | ⟨entry, entry', hentry, hentry', _, hdeclaration⟩
  · rw [hnone, hnone']
    exact .inl ⟨rfl, rfl⟩
  · rw [hentry, hentry']
    exact .inr ⟨_, _, rfl, rfl, hdeclaration⟩

theorem isMixed_eq : other.isMixed = registry.isMixed := by
  funext id
  rw [isMixed, isMixed]
  rcases hrespells.get?_cases id with
    ⟨hnone, hnone'⟩ | ⟨declaration, declaration', hget, hget', hdeclaration⟩
  · rw [hnone, hnone']
  · rw [hget, hget', Option.any_some, Option.any_some, ← declaration'.isMixed_unspelled,
      hdeclaration.unspelled_eq, declaration.isMixed_unspelled]

theorem isText_eq : other.isText = registry.isText := by
  funext id
  rw [isText, isText]
  rcases hrespells.get?_cases id with
    ⟨hnone, hnone'⟩ | ⟨declaration, declaration', hget, hget', hdeclaration⟩
  · rw [hnone, hnone']
  · rw [hget, hget', Option.any_some, Option.any_some, ← declaration'.isText_unspelled,
      hdeclaration.unspelled_eq, declaration.isText_unspelled]

theorem declaredName_eq (id : TypeId) : other.declaredName id = registry.declaredName id := by
  rw [declaredName, declaredName]
  rcases hrespells.get?_cases id with
    ⟨hnone, hnone'⟩ | ⟨declaration, declaration', hget, hget', hdeclaration⟩
  · rw [hnone, hnone']
  · rw [hget, hget', Option.elim_some, Option.elim_some, hdeclaration.name_eq]

/-! ### Walks and faults -/

variable (hfind : ∀ text text', same text text' →
  other.findReferenced? text' = registry.findReferenced? text)

include hfind

theorem declaredBase?_eq : other.declaredBase? = registry.declaredBase? := by
  funext id
  rw [declaredBase?, declaredBase?]
  rcases hrespells.get?_cases id with
    ⟨hnone, hnone'⟩ | ⟨declaration, declaration', hget, hget', hdeclaration⟩
  · rw [hnone, hnone', Option.bind_none, Option.bind_none]
  · rw [hget, hget', Option.bind_some, Option.bind_some,
      hdeclaration.base?_eq hfind]

theorem localFault?_eq (parent : Option Element) (id : TypeId) :
    (other.localFault? parent id).map Fault.unspelled =
      (registry.localFault? parent id).map Fault.unspelled := by
  rw [localFault?, localFault?]
  rcases hrespells.get?_cases id with
    ⟨hnone, hnone'⟩ | ⟨declaration, declaration', hget, hget', hdeclaration⟩
  · rw [hnone, hnone', Option.bind_none, Option.bind_none]
  · rw [hget, hget', Option.bind_some, Option.bind_some,
      hdeclaration.fault?_eq hfind]

/-- Walks do not depend on the texts of references. -/
theorem nextBase?_eq : other.nextBase? = registry.nextBase? := by
  funext id
  have hfaulty := congrArg Option.isSome (hrespells.localFault?_eq hfind none id)
  rw [Option.isSome_map, Option.isSome_map] at hfaulty
  rw [nextBase?, nextBase?, hfaulty, hrespells.declaredBase?_eq hfind]

theorem walkFault?_eq (id : TypeId) :
    (other.walkFault? none id).map Fault.unspelled =
      (registry.walkFault? none id).map Fault.unspelled := by
  have hend : other.walkEnd id = registry.walkEnd id :=
    ending_congr hrespells.size_eq (hrespells.nextBase?_eq hfind)
  rw [walkFault?, walkFault?, hend]
  cases registry.walkEnd id with
  | stop last => exact hrespells.localFault?_eq hfind none last
  | loop entry => rw [endFault?, endFault?, hrespells.declaredName_eq]

theorem newFault?_eq (before : List TypeId) (id : TypeId) :
    (other.newFault? before id).map Fault.unspelled =
      (registry.newFault? before id).map Fault.unspelled := by
  by_cases hmeets : ∃ earlier ∈ before, Meets registry.nextBase? earlier id
  · obtain ⟨earlier, hearlier, hmeets⟩ := hmeets
    rw [newFault?_of_meets hearlier hmeets, newFault?_of_meets hearlier]
    rwa [hrespells.nextBase?_eq hfind]
  · have hapart (earlier : TypeId) (hearlier : earlier ∈ before) :
        ¬Meets registry.nextBase? earlier id := fun hmeet => hmeets ⟨earlier, hearlier, hmeet⟩
    have hapart' (earlier : TypeId) (hearlier : earlier ∈ before) :
        ¬Meets other.nextBase? earlier id := by
      rw [hrespells.nextBase?_eq hfind]
      exact hapart earlier hearlier
    rw [newFault?_of_apart hapart, newFault?_of_apart hapart', hrespells.walkFault?_eq hfind]

/-- The faults found at a list of types do not depend on the texts of references, but for the texts
that they tell. -/
theorem newFaults_eq (before ids : List TypeId) :
    (other.newFaults before ids).map Fault.unspelled =
      (registry.newFaults before ids).map Fault.unspelled := by
  induction ids generalizing before with
  | nil => rfl
  | cons id ids ih =>
    rw [newFaults, newFaults, List.map_append, List.map_append, ih, ← Option.toList_map,
      ← Option.toList_map, hrespells.newFault?_eq hfind]

theorem faults_eq (hnever : registry.NeverCompiled) (hnever' : other.NeverCompiled)
    (failFast : Bool) :
    (other.resolveAll failFast).faults.map Fault.unspelled =
      (registry.resolveAll failFast).faults.map Fault.unspelled := by
  rw [hnever.repeatable.faults_eq, hnever'.repeatable.faults_eq, hrespells.ids_eq]
  cases failFast with
  | true => rw [if_pos rfl, if_pos rfl, List.map_take, List.map_take, hrespells.newFaults_eq hfind]
  | false =>
    rw [if_neg Bool.false_ne_true, if_neg Bool.false_ne_true, hrespells.newFaults_eq hfind]

/-! ### Resolved registries -/

theorem get?_resolved (id : TypeId) :
    (other.resolved.get? id).map Declaration.unspelled =
      (registry.resolved.get? id).map Declaration.unspelled := by
  rw [Registry.get?_resolved, Registry.get?_resolved]
  rcases hrespells.get?_cases id with
    ⟨hnone, hnone'⟩ | ⟨declaration, declaration', hget, hget', hdeclaration⟩
  · rw [hnone, hnone']
    rfl
  · rw [hget, hget', Option.map_some, Option.map_some, Option.map_some, Option.map_some,
      hdeclaration.unspelled_resolved hfind]

theorem recordedPath_resolved (id : TypeId) :
    other.resolved.recordedPath id = registry.resolved.recordedPath id := by
  refine path_congr fun id _ => ?_
  rw [recordedBase?_resolved, recordedBase?_resolved, hrespells.declaredBase?_eq hfind]

theorem baseChain_resolved (id : TypeId) :
    other.resolved.baseChain id = registry.resolved.baseChain id := by
  rw [baseChain, baseChain, hrespells.recordedPath_resolved hfind]

/-- The lineages of declarations that differ in texts differ in texts only. -/
theorem lineage_resolved (hdeclaration : declaration'.unspelled = declaration.unspelled) :
    (other.resolved.lineage declaration').map Declaration.unspelled =
      (registry.resolved.lineage declaration).map Declaration.unspelled := by
  have hbase : declaration'.recordedBase? = declaration.recordedBase? := by
    rw [← declaration'.recordedBase?_unspelled, hdeclaration, declaration.recordedBase?_unspelled]
  rw [lineage, lineage, List.map_cons, List.map_cons, hdeclaration, ancestors, ancestors, hbase]
  refine congrArg _ ?_
  cases declaration.recordedBase? with
  | none => rfl
  | some base =>
    calc ((other.resolved.recordedPath base).filterMap other.resolved.get?).map
          Declaration.unspelled
        = (registry.resolved.recordedPath base).filterMap
            fun id => (other.resolved.get? id).map Declaration.unspelled := by
          rw [List.map_filterMap, hrespells.recordedPath_resolved hfind]
      _ = (registry.resolved.recordedPath base).filterMap
            fun id => (registry.resolved.get? id).map Declaration.unspelled :=
          congrArg (List.filterMap · _) (funext (hrespells.get?_resolved hfind))
      _ = ((registry.resolved.recordedPath base).filterMap registry.resolved.get?).map
            Declaration.unspelled := by
          rw [List.map_filterMap]

theorem elements_resolved (hdeclaration : declaration'.unspelled = declaration.unspelled) :
    (Lineage.elements (other.resolved.lineage declaration')).map Element.unspelled =
      (Lineage.elements (registry.resolved.lineage declaration)).map Element.unspelled := by
  have helements := congrArg Lineage.elements (hrespells.lineage_resolved hfind hdeclaration)
  rwa [Lineage.elements_unspelled, Lineage.elements_unspelled] at helements

theorem attributes_resolved (hdeclaration : declaration'.unspelled = declaration.unspelled) :
    Lineage.attributes (other.resolved.lineage declaration') =
      Lineage.attributes (registry.resolved.lineage declaration) := by
  have hattributes := congrArg Lineage.attributes (hrespells.lineage_resolved hfind hdeclaration)
  rwa [Lineage.attributes_unspelled, Lineage.attributes_unspelled] at hattributes

/-- If the types that bases name decide which types carry text, how they are written does not. -/
theorem containsText_resolved (htext : registry.TextByBases) (htext' : other.TextByBases)
    (hget : registry.get? id = some declaration) (hget' : other.get? id = some declaration') :
    Lineage.containsText (other.resolved.lineage (declaration'.resolved other.findReferenced?)) =
      Lineage.containsText
        (registry.resolved.lineage (declaration.resolved registry.findReferenced?)) := by
  rw [htext id declaration hget, htext' id declaration' hget', hrespells.baseChain_resolved hfind,
    hrespells.isMixed_eq, hrespells.isText_eq]

/-- What the schemas say of a type differs in texts only. -/
theorem compiled?_resolved (htext : registry.TextByBases) (htext' : other.TextByBases)
    (id : TypeId) :
    (other.resolved.compiled? id).map CompiledType.unspelled =
      (registry.resolved.compiled? id).map CompiledType.unspelled := by
  have hentries (registry : Registry) : registry.resolved.entries[id.index]? =
      registry.entries[id.index]?.map fun entry =>
        ⟨entry.name, entry.declaration.resolved registry.findReferenced?⟩ := by
    simp [resolved, mapDeclarations]
  rw [compiled?, compiled?, hentries, hentries]
  rcases hrespells.getElem?_cases id.index with
    ⟨hnone, hnone'⟩ | ⟨entry, entry', hentry, hentry', hname, hdeclaration⟩
  · rw [hnone, hnone']
    rfl
  · have hget : registry.get? id = some entry.declaration := by rw [get?, hentry, Option.map_some]
    have hget' : other.get? id = some entry'.declaration := by rw [get?, hentry', Option.map_some]
    have hresolved := hdeclaration.unspelled_resolved hfind
    have hmembers : CompiledType.unspelled
        { other.resolved.members (entry'.declaration.resolved other.findReferenced?) with
          id, name := entry'.name, baseChain := other.resolved.baseChain id } =
        CompiledType.unspelled
          { registry.resolved.members (entry.declaration.resolved registry.findReferenced?) with
            id, name := entry.name, baseChain := registry.resolved.baseChain id } := by
      simp only [CompiledType.unspelled, members, hrespells.elements_resolved hfind hresolved,
        hrespells.attributes_resolved hfind hresolved,
        hrespells.containsText_resolved hfind htext htext' hget hget',
        hrespells.baseChain_resolved hfind, hname]
    rw [hentry, hentry']
    have halike := hdeclaration.unspelled_eq
    obtain ⟨name, declaration⟩ := entry
    obtain ⟨name', declaration'⟩ := entry'
    cases declaration with
    | builtin => cases declaration' <;> cases halike; rfl
    | simple => cases declaration' <;> cases halike; rfl
    | complex type =>
      cases declaration' with
      | builtin => cases halike
      | simple => cases halike
      | complex type' => exact congrArg some hmembers

/-- The schemas differ in texts only. -/
theorem types_resolved (htext : registry.TextByBases) (htext' : other.TextByBases) :
    (Schema.ofRegistry other.resolved).types.map CompiledType.unspelled =
      (Schema.ofRegistry registry.resolved).types.map CompiledType.unspelled := by
  have hids : other.resolved.ids = registry.resolved.ids := by
    rw [ids_eq_of_forget forget_resolved, ids_eq_of_forget forget_resolved, hrespells.ids_eq]
  rw [types_ofRegistry, types_ofRegistry, List.map_filterMap, List.map_filterMap, hids]
  exact congrArg (List.filterMap · _) (funext (hrespells.compiled?_resolved hfind htext htext'))

theorem unspelledOutcome_compile (hnever : registry.NeverCompiled)
    (hnever' : other.NeverCompiled) (hstring : registry.HasString) (hstring' : other.HasString)
    (config : Config) :
    unspelledOutcome (other.compile config).2 = unspelledOutcome (registry.compile config).2 := by
  have hfaults := hrespells.faults_eq hfind hnever hnever' config.failFast
  have hnil : (other.resolveAll config.failFast).faults = [] ↔
      (registry.resolveAll config.failFast).faults = [] := by
    rw [← List.map_eq_nil_iff, hfaults, List.map_eq_nil_iff]
  by_cases hnone : (registry.resolveAll config.failFast).faults = []
  · have hok : (registry.compile config).2 = .ok (Schema.ofRegistry (registry.compile config).1) :=
      compile_eq_ok_iff.mpr ⟨hnone, rfl⟩
    have hok' : (other.compile config).2 = .ok (Schema.ofRegistry (other.compile config).1) :=
      compile_eq_ok_iff.mpr ⟨hnil.mpr hnone, rfl⟩
    obtain ⟨hformed, _, hschema⟩ := hnever.of_compile_ok hok
    obtain ⟨hformed', _, hschema'⟩ := hnever'.of_compile_ok hok'
    have htypes := hrespells.types_resolved hfind (hformed.textByBases hnever.indexed hstring)
      (hformed'.textByBases hnever'.indexed hstring')
    rw [hok, hok', hschema, hschema', unspelledOutcome, unspelledOutcome, htypes]
  · rw [snd_compile, snd_compile, if_neg hnone, if_neg fun hnone' => hnone (hnil.mp hnone'),
      unspelledOutcome, unspelledOutcome, hfaults]

end Respells

variable {text text' : String}

/-- Texts that mean the same name the same type. -/
theorem SameReference.findReferenced?_eq (hsame : registry.SameReference other text text')
    (hfind : ∀ name, other.find? name = registry.find? name) :
    other.findReferenced? text' = registry.findReferenced? text := by
  rcases hsame with hname | ⟨hnone, hnone'⟩
  · rw [findReferenced?, findReferenced?, hname]
    exact congrArg _ (funext hfind)
  · rw [hnone, hnone']

/-- The type of strings stays while a registry with the prefix `xsd` is filled. -/
theorem hasString_replay {config : Config} {history : List Operation}
    (hxsd : "xsd" ∈ config.xsdPrefixes)
    (hhistory : ∀ operation ∈ history, operation.declares = true) :
    ((ofConfig config).replay history).HasString :=
  replay_induction (fun _ hstring operation hoperation =>
    hstring.apply (hhistory operation hoperation)) (hasString_ofConfig hxsd)

/-- **The spelling of references is irrelevant.** Two registries are made from configurations with
the prefix `xsd` and filled, and they differ in the texts of references only, where corresponding
texts stand for one name or name no type, and blank bases stay blank. Then compiling them gives the
same outcome, apart from the texts. -/
theorem compile_eq_of_respells {config config' : Config} {history history' : List Operation}
    {registry other : Registry} (hregistry : registry = (ofConfig config).replay history)
    (hother : other = (ofConfig config').replay history')
    (hxsd : "xsd" ∈ config.xsdPrefixes) (hxsd' : "xsd" ∈ config'.xsdPrefixes)
    (hhistory : ∀ operation ∈ history, operation.declares = true)
    (hhistory' : ∀ operation ∈ history', operation.declares = true)
    (hrespells : Respells (registry.SameReference other) registry other) (options : Config) :
    unspelledOutcome (other.compile options).2 = unspelledOutcome (registry.compile options).2 := by
  have hnever := (neverCompiled_ofConfig config).replay_declares hhistory
  have hnever' := (neverCompiled_ofConfig config').replay_declares hhistory'
  have hstring := hasString_replay hxsd hhistory
  have hstring' := hasString_replay hxsd' hhistory'
  rw [← hregistry] at hnever hstring
  rw [← hother] at hnever' hstring'
  exact hrespells.unspelledOutcome_compile
    (fun _ _ hsame => hsame.findReferenced?_eq hrespells.find?_eq) hnever hnever' hstring hstring'
    options

/-! ### Filling registries alike -/

theorem resolve?_addNew (name : QualifiedName) (declaration : Declaration) (text : String) :
    (registry.addNew name declaration).resolve? text = registry.resolve? text := by
  simp only [resolve?, namespaceOf?_addNew, targetNamespace_addNew]

/-- A reference that differs in blanks around it stands for the same name. -/
theorem resolve?_eq_of_ofText (hreference : Reference.ofText text' = Reference.ofText text) :
    registry.resolve? text' = registry.resolve? text := by
  rw [resolve?, resolve?, hreference]

theorem respells_refl (hsame : ∀ text, same text text) (registry : Registry) :
    Respells same registry registry where
  entries := List.forall₂_same.mpr fun entry _ => ⟨rfl, .refl hsame entry.declaration⟩
  find?_eq _ := rfl

/-- Types that differ in texts only may be registered under one name. -/
theorem Respells.addNew (hrespells : Respells same registry other) (name : QualifiedName)
    (hdeclaration : declaration.Respells same declaration') :
    Respells same (registry.addNew name declaration) (other.addNew name declaration') := by
  cases hfind : registry.find? name with
  | some id =>
    rw [addNew_of_some hfind, addNew_of_some ((hrespells.find?_eq name).trans hfind)]
    exact hrespells
  | none =>
    rw [addNew_of_none hfind, addNew_of_none ((hrespells.find?_eq name).trans hfind)]
    refine ⟨?_, fun other => ?_⟩
    · have hlast : List.Forall₂ (fun entry entry' : Entry => entry'.name = entry.name ∧
          entry.declaration.Respells same entry'.declaration) [⟨name, declaration⟩]
          [⟨name, declaration'⟩] := .cons ⟨rfl, hdeclaration⟩ .nil
      simpa [append] using List.rel_append hrespells.entries hlast
    · rw [find?_append, find?_append, hrespells.size_eq, hrespells.find?_eq]

/-- A type that extends strings, and a type that extends the first one and has an element of it. -/
def proseAndLeaf (string base reference : String) : List Operation :=
  [.register (.extending "Prose" string (some [])),
    .register (.extending "Leaf" base (some
      [{ Element.named "note" with typeReference := some reference }]))]

/-- The registry of the two types. -/
def withProseAndLeaf (string base reference : String) : Registry :=
  (ofConfig .standard).replay (proseAndLeaf string base reference)

theorem withProseAndLeaf_eq (string base reference : String) :
    withProseAndLeaf string base reference =
      ((ofConfig .standard).addNew ⟨(ofConfig .standard).targetNamespace, "Prose"⟩
        (.extending "Prose" string (some []))).addNew ⟨(ofConfig .standard).targetNamespace, "Leaf"⟩
          (.extending "Leaf" base (some
            [{ Element.named "note" with typeReference := some reference }])) := by
  rw [withProseAndLeaf, proseAndLeaf, replay_cons, replay_cons, Operation.apply, Operation.apply,
    register, registerAs_eq_addNew, register, registerAs_eq_addNew, targetNamespace_addNew,
    Declaration.name_extending, Declaration.name_extending, replay, List.foldl_nil]

/-- The name of a type, whether it carries text, and the references of its elements. -/
def textAndReferences (type : CompiledType) : String × Bool × List (Option String) :=
  (type.name.localPart, type.containsText, type.elements.map (·.typeReference))

/-- What the two types are compiled to, spelled in two ways. -/
theorem read_withProseAndLeaf :
    ((withProseAndLeaf "xsd:string" "Prose" "Prose").compile .standard).2.toOption.map
        (·.types.map textAndReferences) =
      some [("Prose", true, []), ("Leaf", true, [some "Prose"])] ∧
    ((withProseAndLeaf "xs:string" " Prose" "Prose ").compile .standard).2.toOption.map
        (·.types.map textAndReferences) =
      some [("Prose", true, []), ("Leaf", true, [some "Prose "])] := by
  decide +kernel

/-- Another prefix of the same namespace and blanks around a reference do not matter. Both
registries are compiled, and their types carry text alike and differ in the text of one reference
only. -/
theorem compile_eq_of_respells_proseAndLeaf :
    "xsd" ∈ Config.standard.xsdPrefixes ∧
      ((∀ operation ∈ proseAndLeaf "xsd:string" "Prose" "Prose", operation.declares = true) ∧
        ∀ operation ∈ proseAndLeaf "xs:string" " Prose" "Prose ", operation.declares = true) ∧
      Respells
        ((withProseAndLeaf "xsd:string" "Prose" "Prose").SameReference
          (withProseAndLeaf "xs:string" " Prose" "Prose "))
        (withProseAndLeaf "xsd:string" "Prose" "Prose")
        (withProseAndLeaf "xs:string" " Prose" "Prose ") ∧
      (∃ schema schema',
        ((withProseAndLeaf "xsd:string" "Prose" "Prose").compile .standard).2 = .ok schema ∧
          ((withProseAndLeaf "xs:string" " Prose" "Prose ").compile .standard).2 = .ok schema' ∧
          schema.types.map textAndReferences =
            [("Prose", true, []), ("Leaf", true, [some "Prose"])] ∧
          schema'.types.map textAndReferences =
            [("Prose", true, []), ("Leaf", true, [some "Prose "])]) ∧
      unspelledOutcome
          ((withProseAndLeaf "xs:string" " Prose" "Prose ").compile .standard).2 =
        unspelledOutcome ((withProseAndLeaf "xsd:string" "Prose" "Prose").compile .standard).2 := by
  have hresolve (string base reference text : String) :
      (withProseAndLeaf string base reference).resolve? text =
        (ofConfig .standard).resolve? text := by
    rw [withProseAndLeaf_eq, resolve?_addNew, resolve?_addNew]
  have hstring : (ofConfig .standard).resolve? "xs:string" =
      (ofConfig .standard).resolve? "xsd:string" := by
    have hxs : (Reference.ofText "xs:string").qualifier = some "xs" := by decide
    have hxsd : (Reference.ofText "xsd:string").qualifier = some "xsd" := by decide
    have hlocal : (Reference.ofText "xs:string").localPart =
        (Reference.ofText "xsd:string").localPart := by decide
    rw [resolve?_of_qualifier hxs, resolve?_of_qualifier hxsd, hlocal,
      namespaceOf?_ofConfig (by decide), namespaceOf?_ofConfig (by decide)]
  have hsame {text text' : String}
      (hname : (ofConfig .standard).resolve? text' = (ofConfig .standard).resolve? text) :
      (withProseAndLeaf "xsd:string" "Prose" "Prose").SameReference
        (withProseAndLeaf "xs:string" " Prose" "Prose ") text text' :=
    .inl (by rw [hresolve, hresolve, hname])
  have hxsd : "xsd" ∈ Config.standard.xsdPrefixes := by decide
  have hhistory : ∀ operation ∈ proseAndLeaf "xsd:string" "Prose" "Prose",
      operation.declares = true := by decide
  have hhistory' : ∀ operation ∈ proseAndLeaf "xs:string" " Prose" "Prose ",
      operation.declares = true := by decide
  have hrespells : Respells
      ((withProseAndLeaf "xsd:string" "Prose" "Prose").SameReference
        (withProseAndLeaf "xs:string" " Prose" "Prose "))
      (withProseAndLeaf "xsd:string" "Prose" "Prose")
      (withProseAndLeaf "xs:string" " Prose" "Prose ") := by
    generalize (withProseAndLeaf "xsd:string" "Prose" "Prose").SameReference
      (withProseAndLeaf "xs:string" " Prose" "Prose ") = same at hsame
    have hprose : (Declaration.extending "Prose" "xsd:string" (some [])).Respells same
        (.extending "Prose" "xs:string" (some [])) :=
      .extending (hsame hstring) (by decide) .nil
    have hnote : Element.Respells same { Element.named "note" with typeReference := some "Prose" }
        { Element.named "note" with typeReference := some "Prose " } := by
      refine ⟨rfl, fun text htext text' htext' => ?_⟩
      rw [← Option.some.inj htext, ← Option.some.inj htext']
      exact hsame (resolve?_eq_of_ofText (by decide))
    have hleaf : (Declaration.extending "Leaf" "Prose" (some
          [{ Element.named "note" with typeReference := some "Prose" }])).Respells same
        (.extending "Leaf" " Prose" (some
          [{ Element.named "note" with typeReference := some "Prose " }])) :=
      .extending (hsame (resolve?_eq_of_ofText (by decide))) (by decide) (.cons hnote .nil)
    rw [withProseAndLeaf_eq, withProseAndLeaf_eq]
    exact ((respells_refl (fun text => hsame rfl) _).addNew _ hprose).addNew _ hleaf
  obtain ⟨hread, hread'⟩ := read_withProseAndLeaf
  obtain ⟨schema, hok, htypes⟩ := exists_schema_of_read hread
  obtain ⟨schema', hok', htypes'⟩ := exists_schema_of_read hread'
  exact ⟨hxsd, ⟨hhistory, hhistory'⟩, hrespells, ⟨schema, schema', hok, hok', htypes, htypes'⟩,
    compile_eq_of_respells rfl rfl hxsd hxsd hhistory hhistory' hrespells .standard⟩

end Registry

end XsdDerivation
