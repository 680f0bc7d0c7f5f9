import XsdDerivation.Proofs.Lineage
import XsdDerivation.Proofs.Repetition
import XsdDerivation.Proofs.Rewriting

/-!
# Renaming type ids

The ids of a registry stand for its types and mean nothing else. Two registries whose types
correspond under a renaming of ids resolve in the same way: their walks, faults and lineages
correspond, and what their types offer differs in the recorded ids only.
-/

namespace XsdDerivation

variable {find : String → Option TypeId} {rename : TypeId → TypeId}

/-! ### Walks -/

section Walks

variable {step step' : TypeId → Option TypeId} {a b c : TypeId}

/-- The same ending with its types renamed. -/
def Ending.mapIds (rename : TypeId → TypeId) : Ending → Ending
  | stop last => .stop (rename last)
  | loop entry => .loop (rename entry)

variable (hleads : ∀ id, step' (rename id) = (step id).map rename)

include hleads

theorem Reaches.renamed (hreach : Reaches step a b) : Reaches step' (rename a) (rename b) := by
  induction hreach with
  | refl => exact .refl
  | @tail passed next _ hnext ih =>
    refine ih.tail ?_
    rw [Leads, hleads, hnext, Option.map_some]

/-- A renamed type reaches renamed types only. -/
theorem exists_of_reaches_rename (hreach : Reaches step' (rename a) c) :
    ∃ b, rename b = c ∧ Reaches step a b := by
  induction hreach with
  | refl => exact ⟨a, rfl, .refl⟩
  | @tail passed next _ hnext ih =>
    obtain ⟨before, rfl, hbefore⟩ := ih
    rw [Leads, hleads] at hnext
    obtain ⟨after, hafter, rfl⟩ := Option.map_eq_some_iff.mp hnext
    exact ⟨after, rfl, hbefore.tail hafter⟩

variable (hinjective : Function.Injective rename)

include hinjective

theorem meets_rename_iff : Meets step' (rename a) (rename b) ↔ Meets step a b := by
  constructor
  · rintro ⟨met, ha, hb⟩
    obtain ⟨first, rfl, hfirst⟩ := exists_of_reaches_rename hleads ha
    obtain ⟨second, heq, hsecond⟩ := exists_of_reaches_rename hleads hb
    exact ⟨first, hfirst, hinjective heq ▸ hsecond⟩
  · rintro ⟨met, ha, hb⟩
    exact ⟨rename met, ha.renamed hleads, hb.renamed hleads⟩

/-- Renaming the types of a walk renames its end. -/
theorem ending_rename {size size' : Nat} (seen : List TypeId)
    {hstep : ∀ id next, step id = some next → id.index < size}
    {hstep' : ∀ id next, step' id = some next → id.index < size'} :
    ending size' step' hstep' (seen.map rename) (rename a) =
      (ending size step hstep seen a).mapIds rename := by
  have hseen (seen : List TypeId) (id : TypeId) : rename id ∈ seen.map rename ↔ id ∈ seen := by
    rw [List.mem_map]
    constructor
    · rintro ⟨met, hmet, heq⟩
      exact hinjective heq ▸ hmet
    · exact fun hmet => ⟨id, hmet, rfl⟩
  induction seen, a using walk_induction hstep with
  | met seen current hmet =>
    rw [ending_of_mem hmet, ending_of_mem ((hseen seen current).mpr hmet), Ending.mapIds]
  | stop seen current hnew hnone =>
    have hstop : step' (rename current) = none := by rw [hleads, hnone, Option.map_none]
    rw [ending_of_none hnew hnone,
      ending_of_none (fun hmet => hnew ((hseen seen current).mp hmet)) hstop, Ending.mapIds]
  | next seen current next hnew hnext ih =>
    have hgoes : step' (rename current) = some (rename next) := by
      rw [hleads, hnext, Option.map_some]
    rw [ending_of_some hnew hnext,
      ending_of_some (fun hmet => hnew ((hseen seen current).mp hmet)) hgoes, ← ih, List.map_cons]

end Walks

/-! ### Declarations -/

/-- The element with its recorded type renamed. -/
def Element.mapIds (rename : TypeId → TypeId) (element : Element) : Element :=
  { element with resolvedType := element.resolvedType.map rename }

namespace Declaration

/-- The declaration with all that is recorded in it renamed. -/
def mapIds (rename : TypeId → TypeId) : Declaration → Declaration :=
  annotate (Element.mapIds rename) fun derivation => derivation.resolvedBase.map rename

variable {declaration : Declaration} {find' : String → Option TypeId}

theorem derivation?_mapIds : (declaration.mapIds rename).derivation? =
    declaration.derivation?.map fun derivation =>
      derivation.annotate (Element.mapIds rename) (derivation.resolvedBase.map rename) :=
  declaration.derivation?_annotate

@[simp] theorem recordedBase?_mapIds :
    (declaration.mapIds rename).recordedBase? = declaration.recordedBase?.map rename := by
  rw [recordedBase?, recordedBase?, derivation?_mapIds]
  cases declaration.derivation? <;> rfl

/-- Renaming what an annotation records. -/
theorem mapIds_annotate {change : Element → Element} {base : Derivation → Option TypeId}
    (declaration : Declaration) :
    (declaration.annotate change base).mapIds rename =
      declaration.annotate (Element.mapIds rename ∘ change)
        fun derivation => (base derivation).map rename := by
  cases declaration with
  | builtin => rfl
  | simple => rfl
  | complex type =>
    simp [mapIds, annotate, ComplexType.annotate, Derivation.annotate, Function.comp_def]

end Declaration

section References

variable {find' : String → Option TypeId}
  (hfind : ∀ reference, find' reference = (find reference).map rename)

include hfind

theorem Element.resolved_renamed (element : Element) :
    element.resolved find' = (element.resolved find).mapIds rename := by
  have htype : element.typeReference.bind find' =
      (element.typeReference.bind find).map rename := by
    rw [Option.map_bind]
    exact congrArg _ (funext hfind)
  rw [resolved, htype]
  rfl

theorem Derivation.base?_renamed (derivation : Derivation) :
    derivation.base? find' = (derivation.base? find).map rename := by
  unfold base?
  split
  · rfl
  · exact hfind derivation.base

namespace Declaration

/-- Where references stand for renamed types the base is renamed. -/
theorem base?_renamed (declaration : Declaration) :
    declaration.base? find' = (declaration.base? find).map rename := by
  rw [base?, base?, Option.map_bind]
  exact congrArg _ (funext (Derivation.base?_renamed hfind))

/-- What references stand for does not matter to faults, as long as they stand for something. -/
theorem fault?_renamed (parent : Option Element) (declaration : Declaration) :
    declaration.fault? find' parent = declaration.fault? find parent := by
  have hsome (reference : String) : (find' reference).isSome = (find reference).isSome := by
    rw [hfind, Option.isSome_map]
  have helement : Element.fault? find' = Element.fault? find := by
    funext element
    unfold Element.fault?
    simp only [hsome]
  have hderived : Derivation.baseFault? find' parent = Derivation.baseFault? find parent := by
    funext derivation
    unfold Derivation.baseFault?
    rw [hsome]
  rw [fault?, fault?, helement, hderived]

/-- Where references stand for renamed types resolving records the renamed types. -/
theorem resolved_renamed (declaration : Declaration) :
    declaration.resolved find' = (declaration.resolved find).mapIds rename := by
  rw [resolved, resolved, mapIds_annotate]
  exact annotate_congr (fun element _ => element.resolved_renamed hfind)
    fun derivation _ => derivation.base?_renamed hfind

end Declaration

end References

/-! ### Lineages -/

theorem Element.identifier_mapIds (element : Element) :
    (element.mapIds rename).identifier = element.identifier := rfl

namespace Lineage

/-- Renaming ids renames those of the elements that are offered. -/
theorem elements_mapIds (lineage : List Declaration) :
    elements (lineage.map (Declaration.mapIds rename)) =
      (elements lineage).map (Element.mapIds rename) := by
  rw [Declaration.mapIds, Declaration.annotate_eq_rewrite]
  exact elements_rewrite Element.identifier_mapIds lineage

/-- Attributes and their collisions have nothing to do with ids. -/
theorem attributes_mapIds (lineage : List Declaration) :
    attributes (lineage.map (Declaration.mapIds rename)) = attributes lineage := by
  rw [Declaration.mapIds, Declaration.annotate_eq_rewrite]
  exact attributes_rewrite Element.identifier_mapIds lineage

/-- Whether a type carries text has nothing to do with ids. -/
theorem containsText_mapIds (lineage : List Declaration) :
    containsText (lineage.map (Declaration.mapIds rename)) = containsText lineage := by
  induction lineage with
  | nil => rfl
  | cons declaration bases ih =>
    cases declaration with
    | builtin => rfl
    | simple => rfl
    | complex type =>
      obtain ⟨name, mixed, sequence, own, content, position⟩ := type
      cases content with
      | none => rfl
      | some derivation => simp only [List.map_cons, containsText, ← ih]; rfl

end Lineage

/-! ### Registries -/

namespace Registry

variable {registry other : Registry} {id : TypeId} {declaration : Declaration}

/-- The types of the second registry are those of the first one under renamed ids. -/
structure Renames (rename : TypeId → TypeId) (registry other : Registry) : Prop where
  /-- Different ids stay different. -/
  injective : Function.Injective rename
  /-- There are as many types. -/
  size_eq : other.size = registry.size
  /-- Types keep their declarations. -/
  get?_eq : ∀ id, other.get? (rename id) = registry.get? id
  /-- Types keep their names. -/
  nameOf?_eq : ∀ id, other.nameOf? (rename id) = registry.nameOf? id
  /-- References name the renamed types. -/
  find_eq : ∀ reference,
    other.findReferenced? reference = (registry.findReferenced? reference).map rename

namespace Renames

variable (hrenames : Renames rename registry other)

include hrenames

theorem declaredBase?_eq (id : TypeId) :
    other.declaredBase? (rename id) = (registry.declaredBase? id).map rename := by
  rw [declaredBase?, declaredBase?, hrenames.get?_eq, Option.map_bind]
  exact congrArg _ (funext (Declaration.base?_renamed hrenames.find_eq))

theorem localFault?_eq (parent : Option Element) (id : TypeId) :
    other.localFault? parent (rename id) = registry.localFault? parent id := by
  rw [localFault?, localFault?, hrenames.get?_eq]
  exact congrArg _ (funext (Declaration.fault?_renamed hrenames.find_eq parent))

theorem nextBase?_eq (id : TypeId) :
    other.nextBase? (rename id) = (registry.nextBase? id).map rename := by
  rw [nextBase?, nextBase?, hrenames.localFault?_eq, hrenames.declaredBase?_eq]
  split <;> rfl

theorem meets_iff {earlier : TypeId} :
    Meets other.nextBase? (rename earlier) (rename id) ↔ Meets registry.nextBase? earlier id :=
  meets_rename_iff hrenames.nextBase?_eq hrenames.injective

/-- The fault at the end of a walk does not depend on the ids. -/
theorem walkFault?_eq (parent : Option Element) (id : TypeId) :
    other.walkFault? parent (rename id) = registry.walkFault? parent id := by
  have hend : other.walkEnd (rename id) = (registry.walkEnd id).mapIds rename :=
    ending_rename hrenames.nextBase?_eq hrenames.injective []
  rw [walkFault?, walkFault?, hend]
  cases registry.walkEnd id with
  | stop last => exact hrenames.localFault?_eq parent last
  | loop entry =>
    rw [Ending.mapIds, endFault?, endFault?, declaredName, declaredName, hrenames.get?_eq]

theorem newFault?_eq (before : List TypeId) (id : TypeId) :
    other.newFault? (before.map rename) (rename id) = registry.newFault? before id := by
  by_cases hmeets : ∃ earlier ∈ before, Meets registry.nextBase? earlier id
  · obtain ⟨earlier, hearlier, hmeets⟩ := hmeets
    rw [newFault?_of_meets hearlier hmeets,
      newFault?_of_meets (List.mem_map_of_mem hearlier) (hrenames.meets_iff.mpr hmeets)]
  · rw [newFault?_of_apart fun earlier hearlier hmeet => hmeets ⟨earlier, hearlier, hmeet⟩,
      newFault?_of_apart, hrenames.walkFault?_eq]
    intro earlier hearlier hmeet
    obtain ⟨first, hfirst, rfl⟩ := List.mem_map.mp hearlier
    exact hmeets ⟨first, hfirst, hrenames.meets_iff.mp hmeet⟩

/-- The faults found at a list of types do not depend on the ids. -/
theorem newFaults_eq (before ids : List TypeId) :
    other.newFaults (before.map rename) (ids.map rename) = registry.newFaults before ids := by
  induction ids generalizing before with
  | nil => rfl
  | cons id ids ih =>
    have hrest := ih (before ++ [id])
    rw [List.map_append] at hrest
    rw [List.map_cons, newFaults, newFaults, hrenames.newFault?_eq]
    exact congrArg _ hrest

/-! ### Resolved registries -/

theorem get?_resolved (id : TypeId) : other.resolved.get? (rename id) =
    (registry.resolved.get? id).map (Declaration.mapIds rename) := by
  rw [Registry.get?_resolved, Registry.get?_resolved, hrenames.get?_eq, Option.map_map]
  exact congrArg (Option.map · _) (funext (Declaration.resolved_renamed hrenames.find_eq))

theorem recordedPath_resolved (id : TypeId) :
    other.resolved.recordedPath (rename id) = (registry.resolved.recordedPath id).map rename := by
  refine path_map (fun id _ => ?_) (fun _ _ _ _ heq => hrenames.injective heq) fun _ _ => ?_
  · rw [recordedBase?_resolved, recordedBase?_resolved, hrenames.declaredBase?_eq]
  · rw [List.mem_nil_iff, List.mem_nil_iff]

theorem baseChain_resolved (id : TypeId) :
    other.resolved.baseChain (rename id) = (registry.resolved.baseChain id).map rename := by
  rw [baseChain, baseChain, hrenames.recordedPath_resolved, List.map_tail]

/-- The ancestors of a type do not depend on the ids. -/
theorem lineage_resolved (declaration : Declaration) :
    other.resolved.lineage (declaration.mapIds rename) =
      (registry.resolved.lineage declaration).map (Declaration.mapIds rename) := by
  rw [lineage, lineage, List.map_cons, ancestors, ancestors, Declaration.recordedBase?_mapIds]
  cases declaration.recordedBase? with
  | none => rfl
  | some base =>
    refine congrArg _ ?_
    calc (other.resolved.recordedPath (rename base)).filterMap other.resolved.get?
        = ((registry.resolved.recordedPath base).map rename).filterMap other.resolved.get? := by
          rw [hrenames.recordedPath_resolved]
      _ = (registry.resolved.recordedPath base).filterMap
            fun id => (registry.resolved.get? id).map (Declaration.mapIds rename) := by
          rw [List.filterMap_map]
          exact congrArg (List.filterMap · _) (funext hrenames.get?_resolved)
      _ = ((registry.resolved.recordedPath base).filterMap registry.resolved.get?).map
            (Declaration.mapIds rename) := by
          rw [List.map_filterMap]

/-- What a type offers depends on the ids only where they are recorded in elements. -/
theorem members_resolved (declaration : Declaration) :
    other.resolved.members (declaration.mapIds rename) =
      { registry.resolved.members declaration with
        elements := (registry.resolved.members declaration).elements.map
          (Element.mapIds rename) } := by
  rw [members, members, hrenames.lineage_resolved, Lineage.elements_mapIds,
    Lineage.attributes_mapIds, Lineage.containsText_mapIds]

end Renames

end Registry

end XsdDerivation
