import Mathlib.Data.List.Induction
import XsdDerivation.Members
import XsdDerivation.Proofs.Declared
import XsdDerivation.Proofs.Lineage

/-!
# Merging elements

An extension merges its elements with the inherited ones, level by level along the chain of
bases, and at every level the first element of each identifier stays. Keeping first elements
early makes no difference to what is kept in the end, so that the elements of a type are those
of all its levels put together once.
-/

namespace XsdDerivation

/-! ### Keeping first elements -/

section KeepFirst

variable {element : Element} {identifier : String}

/-- Elements without a taken identifier are kept up to repetitions of identifiers. -/
theorem keepUntaken_eq_eraseDupsBy (taken : Std.TreeSet String) (elements : List Element) :
    keepUntaken taken elements =
      (elements.filter fun element => !taken.contains element.identifier).eraseDupsBy
        fun a b => a.identifier == b.identifier := by
  induction elements generalizing taken with
  | nil => rfl
  | cons first rest ih =>
    rw [keepUntaken]
    by_cases hfirst : taken.contains first.identifier = true
    · rw [if_pos hfirst, ih, List.filter_cons_of_neg (by simp [hfirst])]
    · rw [if_neg hfirst, ih, List.filter_cons_of_pos (by simp [hfirst]), List.eraseDupsBy_cons,
        List.filter_filter]
      refine congrArg (first :: ·) (congrArg _ (List.filter_congr fun element _ => ?_))
      grind

/-- Keeping first elements removes those of which the identifier is repeated. -/
theorem keepFirst_eq_eraseDupsBy (elements : List Element) :
    keepFirst elements = elements.eraseDupsBy fun a b => a.identifier == b.identifier := by
  rw [keepFirst, keepUntaken_eq_eraseDupsBy, List.filter_eq_self.mpr fun _ _ => by simp]

/-- A further element is kept if its identifier is not taken and no element before has it. -/
theorem keepUntaken_append_singleton (taken : Std.TreeSet String) (elements : List Element) :
    keepUntaken taken (elements ++ [element]) =
      keepUntaken taken elements ++
        if taken.contains element.identifier = true ∨
            element.identifier ∈ elements.map (·.identifier) then [] else [element] := by
  induction elements generalizing taken with
  | nil => by_cases h : taken.contains element.identifier <;> simp [keepUntaken, h]
  | cons first rest ih =>
    rw [List.cons_append, keepUntaken, keepUntaken]
    by_cases hfirst : taken.contains first.identifier = true
    · rw [if_pos hfirst, if_pos hfirst, ih]
      grind
    · have hinsert : (taken.insert first.identifier).contains element.identifier = true ↔
          first.identifier = element.identifier ∨ taken.contains element.identifier = true := by
        simp [Std.TreeSet.contains_insert]
      rw [if_neg hfirst, if_neg hfirst, ih, List.cons_append]
      grind

/-- A further element is kept if no element before has its identifier. -/
theorem keepFirst_append_singleton (elements : List Element) :
    keepFirst (elements ++ [element]) =
      keepFirst elements ++
        if element.identifier ∈ elements.map (·.identifier) then [] else [element] := by
  simp [keepFirst, keepUntaken_append_singleton]

/-- Keeping the first elements keeps every identifier. -/
theorem mem_identifiers_keepFirst (elements : List Element) :
    identifier ∈ (keepFirst elements).map (·.identifier) ↔
      identifier ∈ elements.map (·.identifier) := by
  induction elements using List.reverseRecOn with
  | nil => rfl
  | append_singleton elements element ih =>
    rw [keepFirst_append_singleton, List.map_append, List.mem_append, ih, List.map_append,
      List.mem_append]
    split <;> simp_all

/-- Of elements that have been kept all are kept. -/
theorem keepFirst_keepFirst (elements : List Element) :
    keepFirst (keepFirst elements) = keepFirst elements := by
  induction elements using List.reverseRecOn with
  | nil => rfl
  | append_singleton elements element ih =>
    rw [keepFirst_append_singleton]
    split
    · rw [List.append_nil, ih]
    · rename_i hnew
      rw [keepFirst_append_singleton, ih, if_neg (mt (mem_identifiers_keepFirst elements).mp hnew)]

/-- Elements may be merged one by one or at once. -/
theorem keepFirst_keepFirst_append (inherited own : List Element) :
    keepFirst (keepFirst inherited ++ own) = keepFirst (inherited ++ own) := by
  induction own using List.reverseRecOn with
  | nil => rw [List.append_nil, List.append_nil, keepFirst_keepFirst]
  | append_singleton own element ih =>
    rw [← List.append_assoc, ← List.append_assoc, keepFirst_append_singleton,
      keepFirst_append_singleton, ih, List.map_append, List.map_append]
    simp only [List.mem_append, mem_identifiers_keepFirst]

end KeepFirst

/-! ### The levels of a type -/

namespace Declaration

variable {declaration : Declaration}

/-- The sequence that a declaration contributes to its elements: that of its derivation, or its
own if it is not derived. Only complex types have one. -/
def contributedSequence? (declaration : Declaration) : Option (List Element) :=
  declaration.complexType?.bind fun type =>
    match type.content with
    | none => type.sequence
    | some derivation => derivation.sequence

/-- The elements that a declaration contributes, as declared. -/
def contribution (declaration : Declaration) : List Element :=
  declaration.contributedSequence?.getD []

theorem contribution_of_none (hnone : declaration.contributedSequence? = none) :
    declaration.contribution = [] := by
  rw [contribution, hnone, Option.getD_none]

end Declaration

namespace Registry

variable {registry : Registry} {declaration base : Declaration} {levels : List Declaration}

/-- The declaration whose elements a declaration inherits: that of the recorded base of an
extension. A restriction inherits no elements. -/
def inherited? (registry : Registry) (declaration : Declaration) : Option Declaration :=
  declaration.derivation?.bind fun derivation =>
    match derivation.method with
    | .extension => derivation.resolvedBase.bind registry.get?
    | .restriction => none

/-- The levels of a declaration: itself and then those of the declaration whose elements it
inherits. -/
inductive HasLevels (registry : Registry) : Declaration → List Declaration → Prop where
  /-- The last level inherits no elements. -/
  | last {declaration : Declaration} (hnone : registry.inherited? declaration = none) :
      HasLevels registry declaration [declaration]
  /-- A level that inherits elements is followed by the levels of the inherited declaration. -/
  | next {declaration base : Declaration} {levels : List Declaration}
      (hsome : registry.inherited? declaration = some base)
      (hrest : HasLevels registry base levels) :
      HasLevels registry declaration (declaration :: levels)

theorem baseDeclaration?_of_inherited? (hsome : registry.inherited? declaration = some base) :
    registry.baseDeclaration? declaration = some base := by
  obtain ⟨derivation, hderived, hinherited⟩ := Option.bind_eq_some_iff.mp hsome
  rw [baseDeclaration?, Declaration.recordedBase?, hderived, Option.bind_some]
  cases hmethod : derivation.method with
  | extension => simpa only [hmethod] using hinherited
  | restriction => simp [hmethod] at hinherited

/-- A declaration whose chain of recorded bases does not loop has levels. -/
theorem ChainEnds.exists_hasLevels (hchain : registry.ChainEnds declaration) :
    ∃ levels, registry.HasLevels declaration levels := by
  induction hchain.acc with
  | intro declaration _ ih =>
    cases hinherited : registry.inherited? declaration with
    | none => exact ⟨[declaration], .last hinherited⟩
    | some base =>
      have hbase := baseDeclaration?_of_inherited? hinherited
      obtain ⟨levels, hlevels⟩ := ih base hbase (hchain.of_base hbase)
      exact ⟨declaration :: levels, .next hinherited hlevels⟩

/-- A declaration that inherits no elements has its own as declared. -/
theorem elements_lineage_of_none (hnone : registry.inherited? declaration = none) :
    Lineage.elements (registry.lineage declaration) = declaration.contribution := by
  cases declaration with
  | builtin => rfl
  | simple => rfl
  | complex type =>
    obtain ⟨name, mixed, sequence, attributes, content, position⟩ := type
    cases content with
    | none => rfl
    | some derivation =>
      obtain ⟨method, reference, added, inner, place, recorded⟩ := derivation
      cases method with
      | restriction => rfl
      | extension =>
        have hbase : registry.baseDeclaration? (.complex ⟨name, mixed, sequence, attributes, some
            ⟨.extension, reference, added, inner, place, recorded⟩, position⟩) = none := hnone
        rw [lineage_of_none hbase]
        rfl

/-- A declaration that inherits elements merges its own into them, if it has a sequence. -/
theorem ChainEnds.elements_lineage_eq (hchain : registry.ChainEnds declaration)
    (hsome : registry.inherited? declaration = some base) :
    Lineage.elements (registry.lineage declaration) =
      match declaration.contributedSequence? with
      | none => Lineage.elements (registry.lineage base)
      | some own => keepFirst (Lineage.elements (registry.lineage base) ++ own) := by
  rw [hchain.lineage_eq (baseDeclaration?_of_inherited? hsome)]
  cases declaration with
  | builtin => cases hsome
  | simple => cases hsome
  | complex type =>
    obtain ⟨name, mixed, sequence, attributes, content, position⟩ := type
    cases content with
    | none => cases hsome
    | some derivation =>
      obtain ⟨method, reference, added, inner, place, recorded⟩ := derivation
      cases method with
      | restriction => cases hsome
      | extension => cases inner <;> rfl

end Registry

/-! ### Merging all levels at once -/

/-- The elements of all levels put together, from the last level on. The first element of each
identifier stays if a level before the last has a sequence, which may be empty; else the elements
of the last level stay as they are. -/
def mergeLevels (levels : List Declaration) : List Element :=
  if levels.dropLast.any fun level => level.contributedSequence?.isSome then
    (levels.reverse.flatMap Declaration.contribution).eraseDupsBy
      fun a b => a.identifier == b.identifier
  else levels.getLast?.elim [] Declaration.contribution

/-- Where no level before the last has a sequence the levels contribute the elements of the last
one only. -/
theorem flatMap_contribution_of_not_any {levels : List Declaration}
    (hnone : ¬(levels.dropLast.any fun level => level.contributedSequence?.isSome) = true) :
    levels.reverse.flatMap Declaration.contribution =
      levels.getLast?.elim [] Declaration.contribution := by
  induction levels with
  | nil => rfl
  | cons level levels ih =>
    cases levels with
    | nil => simp
    | cons base levels =>
      rw [List.dropLast_cons_cons, List.any_cons, Bool.or_eq_true, not_or] at hnone
      have hlevel : level.contribution = [] :=
        Declaration.contribution_of_none (by simpa using hnone.1)
      rw [List.reverse_cons, List.flatMap_append, ih hnone.2, List.getLast?_cons_cons]
      simp [hlevel]

/-- Putting a level before others merges its elements into theirs, if it has a sequence. -/
theorem mergeLevels_cons {level : Declaration} {levels : List Declaration} (hne : levels ≠ []) :
    mergeLevels (level :: levels) =
      match level.contributedSequence? with
      | none => mergeLevels levels
      | some own => keepFirst (mergeLevels levels ++ own) := by
  obtain ⟨base, rest, rfl⟩ := List.exists_cons_of_ne_nil hne
  cases hsequence : level.contributedSequence? with
  | none =>
    have hlevel := Declaration.contribution_of_none hsequence
    simp [mergeLevels, hsequence, hlevel]
  | some own =>
    have hlevel : level.contribution = own := by rw [Declaration.contribution, hsequence]; rfl
    have hmerge : mergeLevels (level :: base :: rest) =
        keepFirst ((base :: rest).reverse.flatMap Declaration.contribution ++ own) := by
      simp [mergeLevels, hsequence, hlevel, keepFirst_eq_eraseDupsBy]
    dsimp only
    rw [hmerge, mergeLevels]
    split
    · rw [← keepFirst_eq_eraseDupsBy, keepFirst_keepFirst_append]
    · rename_i hnone
      rw [flatMap_contribution_of_not_any hnone]

namespace Registry

variable {registry : Registry} {declaration : Declaration} {levels : List Declaration}

theorem HasLevels.ne_nil (hlevels : registry.HasLevels declaration levels) : levels ≠ [] := by
  cases hlevels <;> exact List.cons_ne_nil _ _

/-- **Merging level by level is merging at once.** A declaration whose chain of recorded bases
does not loop has levels, and its elements are those of all levels put together. -/
theorem elements_members_eq_mergeLevels (hchain : registry.ChainEnds declaration) :
    (∃ levels, registry.HasLevels declaration levels) ∧
      ∀ levels, registry.HasLevels declaration levels →
        (registry.members declaration).elements = mergeLevels levels := by
  refine ⟨hchain.exists_hasLevels, fun levels hlevels => ?_⟩
  change Lineage.elements (registry.lineage declaration) = mergeLevels levels
  induction hlevels with
  | last hnone =>
    rw [elements_lineage_of_none hnone]
    rfl
  | next hsome hrest ih =>
    rw [hchain.elements_lineage_eq hsome, mergeLevels_cons hrest.ne_nil,
      ih (hchain.of_base (baseDeclaration?_of_inherited? hsome))]

/-- A type with two elements of one identifier, and a type that extends it by no sequence. -/
def repeatedElements : Registry :=
  (empty.append ⟨"", "Root"⟩
    (.complex { ComplexType.ofSequence [.named "part", .named "Part"] with name := "Root" })).append
    ⟨"", "Middle"⟩ ((Declaration.extending "Middle" "Root" none).recordBase ⟨0⟩)

/-- An extension of the second type by one more element with this identifier and by another. -/
def repeatingExtension : Declaration :=
  (Declaration.extending "Leaf" "Middle" (some [.named "PART", .named "other"])).recordBase ⟨1⟩

/-- The repetition in the first type stays until a level has a sequence. -/
theorem elements_members_eq_mergeLevels_repeatingExtension :
    repeatedElements.ChainEnds repeatingExtension ∧
      ((repeatedElements.get? ⟨1⟩).map fun middle =>
        (repeatedElements.members middle).elements.map (·.name)) = some ["part", "Part"] ∧
      (repeatedElements.members repeatingExtension).elements.map (·.name) = ["part", "other"] ∧
      ∀ levels, repeatedElements.HasLevels repeatingExtension levels →
        (repeatedElements.members repeatingExtension).elements = mergeLevels levels := by
  have hbase : repeatedElements.recordedBase? ⟨1⟩ = some ⟨0⟩ := by decide +kernel
  have hchain : repeatedElements.ChainEnds repeatingExtension :=
    chainEnds_of_reaches rfl (.single hbase) (by decide +kernel)
  exact ⟨hchain, by decide +kernel, by decide +kernel, (elements_members_eq_mergeLevels hchain).2⟩

end Registry

end XsdDerivation
