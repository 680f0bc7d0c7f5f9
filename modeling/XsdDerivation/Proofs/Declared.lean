import XsdDerivation.Resolution.Preparation

/-!
# Declared references

Resolving records ids inside declarations and changes nothing else. This file separates what a
declaration says from what has been recorded in it. `forget` drops everything recorded,
`resolved` records everything at once, and faults and bases are read off the declared
references alone. `find` stands for the way in which references are looked up.
-/

namespace XsdDerivation

variable {find : String → Option TypeId}

namespace Element

/-- The element without a recorded type. -/
def forget (element : Element) : Element := { element with resolvedType := none }

/-- The element with the type that its reference names. -/
def resolved (find : String → Option TypeId) (element : Element) : Element :=
  { element with resolvedType := element.typeReference.bind find }

/-- The fault of an element whose type reference names nothing. -/
def fault? (find : String → Option TypeId) (element : Element) : Option Fault :=
  element.typeReference.bind fun reference =>
    if (find reference).isSome then none
    else some (.unknownElementType reference element.name element.position)

@[simp] theorem forget_resolved (element : Element) :
    (element.resolved find).forget = element.forget := rfl

@[simp] theorem resolved_forget (element : Element) :
    element.forget.resolved find = element.resolved find := rfl

@[simp] theorem forget_forget (element : Element) : element.forget.forget = element.forget := rfl

@[simp] theorem fault?_forget (element : Element) :
    element.forget.fault? find = element.fault? find := rfl

end Element

namespace Derivation

/-- The derivation with its elements changed and with this base recorded or none. -/
def annotate (change : Element → Element) (base : Option TypeId) (derivation : Derivation) :
    Derivation :=
  { derivation with
    sequence := derivation.sequence.map (·.map change)
    resolvedBase := base }

/-- The type that the base reference names. A blank reference names none. -/
def base? (find : String → Option TypeId) (derivation : Derivation) : Option TypeId :=
  if Reference.isBlank derivation.base then none else find derivation.base

/-- The fault of a derivation whose base reference is blank or names nothing. -/
def baseFault? (find : String → Option TypeId) (parent : Option Element)
    (derivation : Derivation) : Option Fault :=
  if Reference.isBlank derivation.base then
    some (.emptyBase (parent.map (·.name)) derivation.position)
  else if (find derivation.base).isSome then none
  else some (.unknownBase derivation.base derivation.position)

/-- A derivation names a base exactly if its base reference is without fault. -/
theorem baseFault?_eq_none_iff {parent : Option Element} {derivation : Derivation} :
    derivation.baseFault? find parent = none ↔ (derivation.base? find).isSome := by
  unfold baseFault? base?
  split <;> simp [Option.isSome_iff_ne_none]

/-- Of two annotations the later one counts. -/
@[simp] theorem annotate_annotate (change change' : Element → Element)
    (base base' : Option TypeId) (derivation : Derivation) :
    (derivation.annotate change base).annotate change' base' =
      derivation.annotate (change' ∘ change) base' := by
  simp [annotate, Function.comp_def]

end Derivation

/-- The complex type with its elements changed and with the bases of `base` recorded. -/
def ComplexType.annotate (change : Element → Element) (base : Derivation → Option TypeId)
    (type : ComplexType) : ComplexType :=
  { type with
    sequence := type.sequence.map (·.map change)
    content := type.content.map fun derivation => derivation.annotate change (base derivation) }

/-- The elements that a complex type declares: its own, then those of its content. -/
def ComplexType.declaredElements (type : ComplexType) : List Element :=
  type.sequence.getD [] ++ (type.content.bind (·.sequence)).getD []

namespace Declaration

/-- The declaration with its elements changed and with the bases of `base` recorded. -/
def annotate (change : Element → Element) (base : Derivation → Option TypeId) :
    Declaration → Declaration
  | .complex type => .complex (type.annotate change base)
  | declaration => declaration

/-- The declaration without anything recorded. -/
def forget : Declaration → Declaration := annotate Element.forget fun _ => none

/-- The declaration with everything recorded that its references name. -/
def resolved (find : String → Option TypeId) : Declaration → Declaration :=
  annotate (Element.resolved find) (Derivation.base? find)

/-- The complex type with this name that extends a base by the elements of a sequence, if it has
one. -/
def extending (name base : String) (sequence : Option (List Element)) : Declaration :=
  .complex { ComplexType.ofDerivation ⟨.extension, base, [], sequence, .unknown, none⟩ with name }

/-- The elements that the declaration contains, in order. -/
def declaredElements (declaration : Declaration) : List Element :=
  declaration.complexType?.elim [] ComplexType.declaredElements

/-- The type that the base reference of the declaration names, if it is derived. -/
def base? (find : String → Option TypeId) (declaration : Declaration) : Option TypeId :=
  declaration.derivation?.bind (Derivation.base? find)

/-- The first fault of the declaration itself: that of an element, or else that of the base
reference. `parent` is the enclosing element. -/
def fault? (find : String → Option TypeId) (parent : Option Element)
    (declaration : Declaration) : Option Fault :=
  (declaration.declaredElements.findSome? (Element.fault? find)).or
    (declaration.derivation?.bind (Derivation.baseFault? find parent))

/-- A declaration is without fault exactly if the type references of its elements name types and
a derivation has a base reference that names one. -/
theorem fault?_eq_none_iff {parent : Option Element} {declaration : Declaration} :
    declaration.fault? find parent = none ↔
      (∀ element ∈ declaration.declaredElements, element.fault? find = none) ∧
        ∀ derivation, declaration.derivation? = some derivation →
          (derivation.base? find).isSome := by
  rw [fault?, Option.or_eq_none_iff, List.findSome?_eq_none_iff]
  refine and_congr_right fun _ => ?_
  cases declaration.derivation? with
  | none => simp
  | some derivation => simp [Derivation.baseFault?_eq_none_iff]

section Annotations

variable {change : Element → Element} {base : Derivation → Option TypeId}

@[simp] theorem name_annotate (declaration : Declaration) :
    (declaration.annotate change base).name = declaration.name := by
  cases declaration <;> rfl

/-- An annotation applies to the declared elements one by one. -/
@[simp] theorem declaredElements_annotate (declaration : Declaration) :
    (declaration.annotate change base).declaredElements =
      declaration.declaredElements.map change := by
  rcases declaration with _ | _ | ⟨_, _, sequence, _, content, _⟩
  · rfl
  · rfl
  · cases sequence <;> rcases content with _ | ⟨_, _, _, own, _, _⟩ <;> try cases own
    all_goals
      simp [annotate, declaredElements, complexType?, ComplexType.annotate,
        ComplexType.declaredElements, Derivation.annotate]

/-- An annotation keeps what the base reference says. -/
theorem derivation?_annotate (declaration : Declaration) :
    (declaration.annotate change base).derivation? =
      declaration.derivation?.map fun derivation =>
        derivation.annotate change (base derivation) := by
  cases declaration <;> rfl

@[simp] theorem base?_annotate (declaration : Declaration) :
    (declaration.annotate change base).base? find = declaration.base? find := by
  rw [base?, derivation?_annotate, base?, Option.bind_map]
  rfl

/-- An annotation that keeps the faults of the elements keeps the fault of the declaration. -/
theorem fault?_annotate (hchange : ∀ element, (change element).fault? find = element.fault? find)
    (parent : Option Element) (declaration : Declaration) :
    (declaration.annotate change base).fault? find parent = declaration.fault? find parent := by
  rw [fault?, fault?, declaredElements_annotate, derivation?_annotate, Option.bind_map,
    List.findSome?_map, show Element.fault? find ∘ change = Element.fault? find from
      funext hchange]
  rfl

/-- An annotation depends on what it does to the declared elements and the derivation only. -/
theorem annotate_congr {change' : Element → Element} {base' : Derivation → Option TypeId}
    {declaration : Declaration}
    (hchange : ∀ element ∈ declaration.declaredElements, change element = change' element)
    (hbase : ∀ derivation, declaration.derivation? = some derivation →
      base derivation = base' derivation) :
    declaration.annotate change base = declaration.annotate change' base' := by
  cases declaration with
  | builtin => rfl
  | simple => rfl
  | complex type =>
    have hown : type.sequence.map (·.map change) = type.sequence.map (·.map change') := by
      cases hsequence : type.sequence with
      | none => rfl
      | some elements =>
        refine congrArg some (List.map_congr_left fun element helement => hchange element ?_)
        exact List.mem_append_left _ (by rw [hsequence]; exact helement)
    have hcontent :
        (type.content.map fun derivation => derivation.annotate change (base derivation)) =
          type.content.map fun derivation => derivation.annotate change' (base' derivation) := by
      cases hcontent : type.content with
      | none => rfl
      | some derivation =>
        have hinner : derivation.sequence.map (·.map change) =
            derivation.sequence.map (·.map change') := by
          cases hsequence : derivation.sequence with
          | none => rfl
          | some elements =>
            refine congrArg some (List.map_congr_left fun element helement => hchange element ?_)
            refine List.mem_append_right _ ?_
            rw [hcontent, Option.bind_some, hsequence]
            exact helement
        rw [Option.map_some, Option.map_some, Derivation.annotate, Derivation.annotate, hinner,
          hbase derivation hcontent]
    rw [annotate, annotate, ComplexType.annotate, ComplexType.annotate, hown, hcontent]

/-- Of two annotations the later one counts. -/
theorem annotate_annotate {change' : Element → Element} {base' : Derivation → Option TypeId}
    (hbase : ∀ derivation, base' (derivation.annotate change (base derivation)) = base' derivation)
    (declaration : Declaration) :
    (declaration.annotate change base).annotate change' base' =
      declaration.annotate (change' ∘ change) base' := by
  cases declaration with
  | builtin => rfl
  | simple => rfl
  | complex type =>
    simp [annotate, ComplexType.annotate, Function.comp_def, hbase]

end Annotations

@[simp] theorem forget_resolved (declaration : Declaration) :
    (declaration.resolved find).forget = declaration.forget :=
  annotate_annotate (fun _ => rfl) declaration

@[simp] theorem resolved_forget (declaration : Declaration) :
    declaration.forget.resolved find = declaration.resolved find :=
  annotate_annotate (fun _ => rfl) declaration

@[simp] theorem forget_forget (declaration : Declaration) :
    declaration.forget.forget = declaration.forget :=
  annotate_annotate (fun _ => rfl) declaration

@[simp] theorem name_forget (declaration : Declaration) :
    declaration.forget.name = declaration.name :=
  name_annotate declaration

@[simp] theorem base?_forget (declaration : Declaration) :
    declaration.forget.base? find = declaration.base? find :=
  base?_annotate declaration

@[simp] theorem fault?_forget (parent : Option Element) (declaration : Declaration) :
    declaration.forget.fault? find parent = declaration.fault? find parent :=
  fault?_annotate Element.fault?_forget parent declaration

/-- Recording a base is an annotation. -/
theorem recordBase_eq_annotate (base : TypeId) (declaration : Declaration) :
    declaration.recordBase base =
      declaration.annotate (fun element => element) fun _ => some base := by
  cases declaration with
  | builtin => rfl
  | simple => rfl
  | complex type => simp [recordBase, annotate, ComplexType.annotate, Derivation.annotate]

/-- Recording a base keeps the declared parts. -/
@[simp] theorem forget_recordBase (declaration : Declaration) (base : TypeId) :
    (declaration.recordBase base).forget = declaration.forget := by
  rw [recordBase_eq_annotate]
  exact annotate_annotate (fun _ => rfl) declaration

/-- Recording a base records it in a derived declaration. -/
theorem recordedBase?_recordBase (declaration : Declaration) (base : TypeId) :
    (declaration.recordBase base).recordedBase? = declaration.derivation?.map fun _ => base := by
  rw [recordedBase?, recordBase_eq_annotate, derivation?_annotate, Option.bind_map]
  cases declaration.derivation? <;> rfl

@[simp] theorem recordedBase?_forget (declaration : Declaration) :
    declaration.forget.recordedBase? = none := by
  rw [recordedBase?, forget, derivation?_annotate, Option.bind_map]
  cases declaration.derivation? <;> rfl

/-- Resolving a declaration records the base that it names. -/
@[simp] theorem recordedBase?_resolved (declaration : Declaration) :
    (declaration.resolved find).recordedBase? = declaration.base? find := by
  rw [recordedBase?, resolved, derivation?_annotate, Option.bind_map]
  rfl

end Declaration

end XsdDerivation
