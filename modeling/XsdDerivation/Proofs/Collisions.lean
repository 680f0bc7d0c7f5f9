import XsdDerivation.Proofs.Merge

/-!
# Collisions of attributes

An extension marks each of its attributes that has the identifier of an element of the type or of
an attribute before it. Whether an attribute is marked depends on these identifiers only, and how
it is marked on its own declared mark, however many collisions there are before it.
-/

namespace XsdDerivation

namespace Attribute

variable {elements : List Element} {before : List Attribute} {attr : Attribute}

/-- The attribute has the identifier of one of the elements or of one of the attributes before
it. -/
def Collides (elements : List Element) (before : List Attribute) (attr : Attribute) : Prop :=
  attr.identifier ∈ elements.map (·.identifier) ∨ attr.identifier ∈ before.map (·.identifier)

instance : Decidable (attr.Collides elements before) :=
  inferInstanceAs (Decidable (_ ∨ _))

/-- The attribute with its mark raised if it collides. -/
def marked (elements : List Element) (before : List Attribute) (attr : Attribute) : Attribute :=
  if attr.Collides elements before then attr.collide else attr

/-- A mark does not change the identifier. -/
@[simp] theorem identifier_marked (elements : List Element) (before : List Attribute)
    (attr : Attribute) : (attr.marked elements before).identifier = attr.identifier := by
  unfold marked
  split <;> rfl

/-- A mark changes nothing but the number of duplicates. -/
theorem marked_eq (elements : List Element) (before : List Attribute) (attr : Attribute) :
    attr.marked elements before =
      { attr with
        duplicates :=
          if attr.Collides elements before then
            if attr.duplicates = 0 then 2 else attr.duplicates + 1
          else attr.duplicates } := by
  unfold marked
  split <;> rfl

/-- The largest number of duplicates that can be counted. -/
def maxDuplicates : UInt32 := 4294967295

/-- A mark that is not the largest one can go up by 1. -/
theorem toNat_succ_of_ne_max {mark : UInt32} (hroom : mark ≠ maxDuplicates) :
    (mark + 1).toNat = mark.toNat + 1 := by
  have hne : mark.toNat ≠ 4294967295 := fun heq => hroom (UInt32.toNat_inj.mp heq)
  have hlt : mark.toNat < 2 ^ 32 := mark.toNat_lt
  have hfits : mark.toNat + 1 < 2 ^ 32 := by omega
  rw [UInt32.toNat_add]
  exact Nat.mod_eq_of_lt hfits

/-- A mark is raised as a number is, unless it is the largest one. -/
theorem toNat_duplicates_marked
    (hroom : attr.Collides elements before → attr.duplicates ≠ maxDuplicates) :
    (attr.marked elements before).duplicates.toNat =
      if attr.Collides elements before then
        if attr.duplicates = 0 then 2 else attr.duplicates.toNat + 1
      else attr.duplicates.toNat := by
  rw [marked_eq]
  dsimp only
  split
  · rename_i hcollides
    split
    · rfl
    · exact toNat_succ_of_ne_max (hroom hcollides)
  · rfl

/-- An attribute that was declared without a mark has one exactly if it collides. -/
theorem duplicates_marked_ne_zero_iff (hzero : attr.duplicates = 0) :
    (attr.marked elements before).duplicates ≠ 0 ↔ attr.Collides elements before := by
  rw [marked_eq, hzero]
  split <;> simp_all

end Attribute

/-! ### Marking a list of attributes -/

section Marks

variable {elements : List Element} {before attributes : List Attribute}
  {taken : Std.TreeSet String} {index : Nat}

/-- Attributes are marked by position, if what is taken are the identifiers of the elements and of
the attributes before. -/
theorem getElem?_markCollisions_of_taken
    (htaken : ∀ identifier, taken.contains identifier = true ↔
      identifier ∈ elements.map (·.identifier) ∨ identifier ∈ before.map (·.identifier)) :
    (markCollisions taken attributes)[index]? =
      attributes[index]?.map (Attribute.marked elements (before ++ attributes.take index)) := by
  induction attributes generalizing taken before index with
  | nil => rfl
  | cons first rest ih =>
    rw [markCollisions]
    cases index with
    | zero =>
      rw [List.take_zero, List.append_nil]
      exact congrArg some (if_congr (htaken first.identifier) rfl rfl)
    | succ index =>
      rw [List.getElem?_cons_succ, List.getElem?_cons_succ, List.take_succ_cons,
        List.append_cons]
      refine ih fun identifier => ?_
      -- From here on the identifier of the first attribute is taken, too.
      rw [Std.TreeSet.contains_insert, List.map_append, List.mem_append]
      have := htaken identifier
      grind

/-- The attributes are marked by position, beginning with the identifiers of the elements. -/
theorem getElem?_markCollisions (elements : List Element) (attributes : List Attribute)
    (index : Nat) :
    (markCollisions (.ofList (elements.map (·.identifier))) attributes)[index]? =
      attributes[index]?.map (Attribute.marked elements (attributes.take index)) := by
  have htaken (identifier : String) :
      (Std.TreeSet.ofList (elements.map (·.identifier))).contains identifier = true ↔
        identifier ∈ elements.map (·.identifier) ∨
          identifier ∈ ([] : List Attribute).map (·.identifier) := by
    simp [Std.TreeSet.contains_ofList]
  exact getElem?_markCollisions_of_taken htaken

/-- No attribute is added or removed. -/
@[simp] theorem length_markCollisions (taken : Std.TreeSet String) (attributes : List Attribute) :
    (markCollisions taken attributes).length = attributes.length := by
  induction attributes generalizing taken with
  | nil => rfl
  | cons first rest ih => rw [markCollisions, List.length_cons, List.length_cons, ih]

/-- Marks leave the identifiers alone. -/
theorem identifiers_markCollisions (taken : Std.TreeSet String) (attributes : List Attribute) :
    (markCollisions taken attributes).map (·.identifier) = attributes.map (·.identifier) := by
  induction attributes generalizing taken with
  | nil => rfl
  | cons first rest ih =>
    rw [markCollisions, List.map_cons, List.map_cons, ih]
    split <;> rfl

end Marks

namespace Registry

variable {registry : Registry} {declaration : Declaration} {levels : List Declaration}
  {type : ComplexType} {derivation extension : Derivation} {identifier : String}

/-- What a derivation offers by itself, as far as its bases are recorded in the registry. -/
def contentMembers (registry : Registry) (derivation : Derivation) : Members :=
  registry.members (.complex (.ofDerivation derivation))

/-- An extension offers its attributes with their collisions marked. -/
theorem attributes_contentMembers (hmethod : extension.method = .extension) :
    (registry.contentMembers extension).attributes =
      markCollisions
        (.ofList ((registry.contentMembers extension).elements.map (·.identifier)))
        extension.attributes := by
  obtain ⟨method, reference, added, inner, place, recorded⟩ := extension
  subst hmethod
  rfl

/-- A derived type offers the elements of its derivation. -/
theorem elements_members_of_content (hcontent : type.content = some derivation) :
    (registry.members (.complex type)).elements =
      (registry.contentMembers derivation).elements := by
  obtain ⟨name, mixed, sequence, attributes, content, position⟩ := type
  obtain ⟨method, reference, added, inner, place, recorded⟩ := derivation
  subst hcontent
  cases method with
  | restriction => rfl
  | extension =>
    have helements (bases : List Declaration) :
        Lineage.elements (.complex ⟨name, mixed, sequence, attributes, some
          ⟨.extension, reference, added, inner, place, recorded⟩, position⟩ :: bases) =
        Lineage.elements (.complex (.ofDerivation
          ⟨.extension, reference, added, inner, place, recorded⟩) :: bases) := by
      cases bases <;> cases inner <;> rfl
    -- Both have the same ancestors, since only the recorded base leads to these.
    exact helements (registry.ancestors (.complex (.ofDerivation _)))

/-- A derived type offers its own attributes before those of its derivation. -/
theorem attributes_members_of_content (hcontent : type.content = some derivation) :
    (registry.members (.complex type)).attributes =
      type.attributes ++ (registry.contentMembers derivation).attributes := by
  have helements : (registry.members (.complex type)).elements =
      (registry.contentMembers derivation).elements := elements_members_of_content hcontent
  obtain ⟨name, mixed, sequence, attributes, content, position⟩ := type
  obtain ⟨method, reference, added, inner, place, recorded⟩ := derivation
  subst hcontent
  cases method with
  | restriction => rfl
  | extension =>
    rw [attributes_contentMembers rfl, ← helements]
    rfl

/-- A declaration offers elements of those identifiers that its levels contribute. -/
theorem HasLevels.mem_identifiers_iff (hlevels : registry.HasLevels declaration levels)
    (hchain : registry.ChainEnds declaration) :
    identifier ∈ (registry.members declaration).elements.map (·.identifier) ↔
      ∃ level ∈ levels, identifier ∈ level.contribution.map (·.identifier) := by
  change identifier ∈ (Lineage.elements (registry.lineage declaration)).map (·.identifier) ↔ _
  induction hlevels with
  | last hnone =>
    rw [elements_lineage_of_none hnone]
    simp
  | @next declaration base levels hsome hrest ih =>
    have hbase := ih (hchain.of_base (baseDeclaration?_of_inherited? hsome))
    rw [hchain.elements_lineage_eq hsome]
    simp only [List.mem_cons, exists_eq_or_imp, ← hbase]
    cases hsequence : declaration.contributedSequence? with
    | none => simp [Declaration.contribution_of_none hsequence]
    | some own =>
      have hown : declaration.contribution = own := by
        rw [Declaration.contribution, hsequence, Option.getD_some]
      dsimp only
      rw [mem_identifiers_keepFirst, List.map_append, List.mem_append, hown, or_comm]

/-- **The marks of an extension.** An extension whose chain of recorded bases does not loop offers
its attributes in order. At each position the attribute is as declared but for its mark, which is
raised if an element or an attribute before it has its identifier. The identifiers of the elements
are those of all levels of the extension. Unless the largest mark is raised, the marks are the
numbers that they would be if there was no largest one. -/
theorem contentMembers_marked (hmethod : extension.method = .extension)
    (hchain : registry.ChainEnds (.complex (.ofDerivation extension))) :
    (registry.contentMembers extension).attributes.length = extension.attributes.length ∧
      (∀ (index : Nat) (attr : Attribute), extension.attributes[index]? = some attr →
        (registry.contentMembers extension).attributes[index]? =
          some { attr with
            duplicates :=
              if attr.Collides (registry.contentMembers extension).elements
                  (extension.attributes.take index) then
                if attr.duplicates = 0 then 2 else attr.duplicates + 1
              else attr.duplicates }) ∧
      (∃ levels, registry.HasLevels (.complex (.ofDerivation extension)) levels ∧
        ∀ identifier,
          identifier ∈ (registry.contentMembers extension).elements.map (·.identifier) ↔
            ∃ level ∈ levels, identifier ∈ level.contribution.map (·.identifier)) ∧
      ∀ (index : Nat) (attr marked : Attribute), extension.attributes[index]? = some attr →
        (registry.contentMembers extension).attributes[index]? = some marked →
        (attr.Collides (registry.contentMembers extension).elements
          (extension.attributes.take index) → attr.duplicates ≠ Attribute.maxDuplicates) →
        marked.duplicates.toNat =
          if attr.Collides (registry.contentMembers extension).elements
              (extension.attributes.take index) then
            if attr.duplicates = 0 then 2 else attr.duplicates.toNat + 1
          else attr.duplicates.toNat := by
  have hmarked (index : Nat) : (registry.contentMembers extension).attributes[index]? =
      extension.attributes[index]?.map (Attribute.marked
        (registry.contentMembers extension).elements (extension.attributes.take index)) := by
    rw [attributes_contentMembers hmethod, getElem?_markCollisions]
  refine ⟨?_, fun index attr hattr => ?_, ?_, fun index attr marked hattr hoffered hroom => ?_⟩
  · rw [attributes_contentMembers hmethod, length_markCollisions]
  · rw [hmarked, hattr, Option.map_some, Attribute.marked_eq]
  · obtain ⟨levels, hlevels⟩ := hchain.exists_hasLevels
    exact ⟨levels, hlevels, fun identifier => hlevels.mem_identifiers_iff hchain⟩
  · rw [hmarked, hattr, Option.map_some, Option.some.injEq] at hoffered
    rw [← hoffered]
    exact Attribute.toNat_duplicates_marked hroom

/-- An extension through two levels whose attributes repeat an inherited element, an element of its
own and each other, some of them with a mark already. -/
def markedExtension : Derivation where
  method := .extension
  base := "Middle"
  attributes := [.named "part", .named "kind", { Attribute.named "lone" with duplicates := 3 },
    .named "Kind", { Attribute.named "kind" with duplicates := 5 },
    { Attribute.named "other" with duplicates := 7 }]
  sequence := some [.named "PART", .named "other"]
  position := .unknown
  resolvedBase := some ⟨1⟩

/-- The marks depend on the declared ones and not on the number of repetitions. -/
theorem contentMembers_marked_markedExtension :
    repeatedElements.ChainEnds (.complex (.ofDerivation markedExtension)) ∧
      (repeatedElements.contentMembers markedExtension).elements.map (·.name) =
        ["part", "other"] ∧
      (repeatedElements.contentMembers markedExtension).attributes.map
          (fun attr => (attr.name, attr.duplicates)) =
        [("part", 2), ("kind", 0), ("lone", 3), ("Kind", 2), ("kind", 6), ("other", 8)] ∧
      (repeatedElements.contentMembers markedExtension).attributes.length = 6 := by
  have hbase : repeatedElements.recordedBase? ⟨1⟩ = some ⟨0⟩ := by decide +kernel
  have hchain : repeatedElements.ChainEnds (.complex (.ofDerivation markedExtension)) :=
    chainEnds_of_reaches rfl (.single hbase) (by decide +kernel)
  exact ⟨hchain, by decide +kernel, by decide +kernel, (contentMembers_marked rfl hchain).1⟩

end Registry

end XsdDerivation
