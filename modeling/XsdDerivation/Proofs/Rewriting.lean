import XsdDerivation.Members
import XsdDerivation.Proofs.Declared

/-!
# Rewriting declarations

Rewriting changes the elements of a declaration one by one, the text of its base reference, and what
is recorded as its base. As long as the elements keep their identifiers it matters neither to which
elements a type offers nor to which attributes collide.
-/

namespace XsdDerivation

variable {change : Element → Element} {rebase : Derivation → String × Option TypeId}

/-- The derivation with its elements changed, and with another base reference and recorded base. -/
def Derivation.rewrite (change : Element → Element) (rebase : Derivation → String × Option TypeId)
    (derivation : Derivation) : Derivation :=
  { derivation with
    base := (rebase derivation).1
    sequence := derivation.sequence.map (·.map change)
    resolvedBase := (rebase derivation).2 }

/-- A derivation that is rewritten twice. -/
theorem Derivation.rewrite_rewrite {change' : Element → Element}
    {rebase' : Derivation → String × Option TypeId} (derivation : Derivation) :
    (derivation.rewrite change rebase).rewrite change' rebase' =
      derivation.rewrite (change' ∘ change) fun derivation =>
        rebase' (derivation.rewrite change rebase) := by
  simp [rewrite, Function.comp_def]

/-- The complex type with its elements and its derivation rewritten. -/
def ComplexType.rewrite (change : Element → Element) (rebase : Derivation → String × Option TypeId)
    (type : ComplexType) : ComplexType :=
  { type with
    sequence := type.sequence.map (·.map change)
    content := type.content.map (Derivation.rewrite change rebase) }

namespace Declaration

/-- The declaration with its elements and its derivation rewritten. -/
def rewrite (change : Element → Element) (rebase : Derivation → String × Option TypeId) :
    Declaration → Declaration
  | .complex type => .complex (type.rewrite change rebase)
  | declaration => declaration

/-- An annotation rewrites what is recorded. -/
theorem annotate_eq_rewrite (base : Derivation → Option TypeId) :
    annotate change base = rewrite change fun derivation => (derivation.base, base derivation) := by
  funext declaration
  cases declaration <;> rfl

@[simp] theorem name_rewrite (declaration : Declaration) :
    (declaration.rewrite change rebase).name = declaration.name := by
  cases declaration <;> rfl

theorem derivation?_rewrite (declaration : Declaration) :
    (declaration.rewrite change rebase).derivation? =
      declaration.derivation?.map (Derivation.rewrite change rebase) := by
  cases declaration <;> rfl

/-- Rewriting applies to the declared elements one by one. -/
@[simp] theorem declaredElements_rewrite (declaration : Declaration) :
    (declaration.rewrite change rebase).declaredElements =
      declaration.declaredElements.map change := by
  have hsequence (sequence : Option (List Element)) :
      (sequence.map (·.map change)).getD [] = (sequence.getD []).map change := by
    cases sequence <;> rfl
  cases declaration with
  | builtin => rfl
  | simple => rfl
  | complex type =>
    have hcontent : ((type.content.map (Derivation.rewrite change rebase)).bind (·.sequence)) =
        (type.content.bind (·.sequence)).map (·.map change) := by
      cases type.content <;> rfl
    calc (Declaration.complex (type.rewrite change rebase)).declaredElements
        = (type.sequence.map (·.map change)).getD [] ++
            ((type.content.map (Derivation.rewrite change rebase)).bind (·.sequence)).getD [] := rfl
      _ = (type.sequence.getD [] ++ (type.content.bind (·.sequence)).getD []).map change := by
          rw [hcontent, hsequence, hsequence, List.map_append]

/-- A declaration that is rewritten twice. -/
theorem rewrite_rewrite {change' : Element → Element}
    {rebase' : Derivation → String × Option TypeId} (declaration : Declaration) :
    (declaration.rewrite change rebase).rewrite change' rebase' =
      declaration.rewrite (change' ∘ change) fun derivation =>
        rebase' (derivation.rewrite change rebase) := by
  cases declaration with
  | builtin => rfl
  | simple => rfl
  | complex type =>
    simp only [rewrite, ComplexType.rewrite, Option.map_map, Function.comp_def, List.map_map,
      Derivation.rewrite_rewrite]

end Declaration

/-! ### What types offer -/

section Identifiers

variable (hidentifier : ∀ element, (change element).identifier = element.identifier)

include hidentifier

/-- Which elements are kept depends on their identifiers only. -/
theorem keepUntaken_map (taken : Std.TreeSet String) (elements : List Element) :
    keepUntaken taken (elements.map change) = (keepUntaken taken elements).map change := by
  induction elements generalizing taken with
  | nil => rfl
  | cons element rest ih =>
    rw [List.map_cons, keepUntaken, keepUntaken, hidentifier]
    split
    · exact ih taken
    · rw [ih, List.map_cons]

theorem keepFirst_map (elements : List Element) :
    keepFirst (elements.map change) = (keepFirst elements).map change :=
  keepUntaken_map hidentifier ∅ elements

namespace Lineage

/-- Rewriting the types of a lineage rewrites the elements that are offered. -/
theorem elements_rewrite (lineage : List Declaration) :
    elements (lineage.map (Declaration.rewrite change rebase)) =
      (elements lineage).map change := by
  induction lineage with
  | nil => rfl
  | cons declaration bases ih =>
    cases declaration with
    | builtin => rfl
    | simple => rfl
    | complex type =>
      obtain ⟨name, mixed, sequence, attributes, content, position⟩ := type
      cases content with
      | none => cases sequence <;> rfl
      | some derivation =>
        obtain ⟨method, reference, added, inner, place, recorded⟩ := derivation
        cases method with
        | restriction => cases inner <;> rfl
        | extension =>
          cases bases with
          | nil => cases inner <;> rfl
          | cons base others =>
            cases inner with
            | none => exact ih
            | some own =>
              calc keepFirst (elements ((base :: others).map (Declaration.rewrite change rebase)) ++
                    own.map change)
                  = keepFirst ((elements (base :: others) ++ own).map change) := by
                    rw [ih, List.map_append]
                _ = (keepFirst (elements (base :: others) ++ own)).map change :=
                    keepFirst_map hidentifier _

/-- Rewriting the types of a lineage leaves the attributes and their collisions alone. -/
theorem attributes_rewrite (lineage : List Declaration) :
    attributes (lineage.map (Declaration.rewrite change rebase)) = attributes lineage := by
  cases lineage with
  | nil => rfl
  | cons declaration bases =>
    have hidentifiers :
        (elements ((declaration :: bases).map (Declaration.rewrite change rebase))).map
            (·.identifier) =
          (elements (declaration :: bases)).map (·.identifier) := by
      rw [elements_rewrite hidentifier, List.map_map]
      exact congrArg (List.map · _) (funext hidentifier)
    cases declaration with
    | builtin => rfl
    | simple => rfl
    | complex type =>
      obtain ⟨name, mixed, sequence, own, content, position⟩ := type
      cases content with
      | none => rfl
      | some derivation =>
        obtain ⟨method, reference, added, inner, place, recorded⟩ := derivation
        cases method with
        | restriction => rfl
        | extension =>
          exact congrArg (fun taken => own ++ markCollisions (.ofList taken) added) hidentifiers

end Lineage

end Identifiers

end XsdDerivation
