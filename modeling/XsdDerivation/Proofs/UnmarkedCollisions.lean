import XsdDerivation.Proofs.Collisions
import XsdDerivation.Proofs.History

/-!
# Unmarked collisions

A compiled type lists the attributes declared on the type itself before those of its extension.
The extension marks its attributes against the elements of the type and against each other. It
does not see the attributes of the type itself: they get no mark, and they mark no other. This file
says which collisions of a compiled type stay without a mark.
-/

namespace XsdDerivation

/-- Every attribute that has the identifier of an element or of an attribute before it has a
mark. -/
def Members.MarksCollisions (members : Members) : Prop :=
  ∀ (index : Nat) (attr : Attribute), members.attributes[index]? = some attr →
    attr.Collides members.elements (members.attributes.take index) → attr.duplicates ≠ 0

/-- The attributes of a type itself and those of its extension collide in no way that the
extension does not mark. -/
structure MarkableAttributes (elements : List Element) (own added : List Attribute) : Prop where
  /-- No attribute of the type itself has the identifier of an element or of an attribute before
  it. -/
  ownFree : ∀ (index : Nat) (attr : Attribute), own[index]? = some attr →
    ¬attr.Collides elements (own.take index)
  /-- An attribute of the extension that has the identifier of one of the type itself has also that
  of an element or of an attribute of the extension before it. -/
  sharedMarked : ∀ (index : Nat) (attr : Attribute), added[index]? = some attr →
    attr.identifier ∈ own.map (·.identifier) → attr.Collides elements (added.take index)

/-! ### Attributes put together -/

section Marked

variable {elements : List Element} {before own added attributes : List Attribute}

/-- Behind the attributes `before`, every attribute of the list that collides has a mark. -/
def MarkedBehind (elements : List Element) (before attributes : List Attribute) : Prop :=
  ∀ (index : Nat) (attr : Attribute), attributes[index]? = some attr →
    attr.Collides elements (before ++ attributes.take index) → attr.duplicates ≠ 0

/-- Of two lists put together the second one is behind the first. -/
theorem markedBehind_append_iff {first second : List Attribute} :
    MarkedBehind elements before (first ++ second) ↔
      MarkedBehind elements before first ∧ MarkedBehind elements (before ++ first) second := by
  refine ⟨fun h => ⟨fun index attr hattr => ?_, fun index attr hattr => ?_⟩,
    fun ⟨hfirst, hsecond⟩ index attr hattr => ?_⟩
  · obtain ⟨hlt, -⟩ := List.getElem?_eq_some_iff.mp hattr
    have := h index attr (by rw [List.getElem?_append_left hlt, hattr])
    rwa [List.take_append_of_le_length hlt.le] at this
  · have := h (first.length + index) attr (by
      rw [List.getElem?_append_right (Nat.le_add_right _ _), Nat.add_sub_cancel_left, hattr])
    rwa [List.take_length_add_append, ← List.append_assoc] at this
  · rcases Nat.lt_or_ge index first.length with hlt | hge
    · rw [List.getElem?_append_left hlt] at hattr
      rw [List.take_append_of_le_length hlt.le]
      exact hfirst index attr hattr
    · obtain ⟨rest, rfl⟩ := Nat.exists_eq_add_of_le hge
      rw [List.getElem?_append_right hge, Nat.add_sub_cancel_left] at hattr
      rw [List.take_length_add_append, ← List.append_assoc]
      exact hsecond rest attr hattr

/-- Attributes without marks have none that is missing exactly if they do not collide. -/
theorem markedBehind_iff_of_unmarked (hzero : ∀ attr ∈ attributes, attr.duplicates = 0) :
    MarkedBehind elements before attributes ↔
      ∀ (index : Nat) (attr : Attribute), attributes[index]? = some attr →
        ¬attr.Collides elements (before ++ attributes.take index) := by
  refine forall₃_congr fun index attr hattr => ?_
  rw [hzero attr (List.mem_of_getElem? hattr)]
  simp

/-- Behind attributes of the type itself, an attribute of the extension collides with one of these
or as it does among those of the extension. -/
theorem collides_append_markCollisions_iff {taken : Std.TreeSet String} {attr : Attribute}
    {index : Nat} :
    (attr.marked elements before).Collides elements
        (own ++ (markCollisions taken added).take index) ↔
      attr.identifier ∈ own.map (·.identifier) ∨ attr.Collides elements (added.take index) := by
  unfold Attribute.Collides
  rw [Attribute.identifier_marked, List.map_append, List.mem_append, List.map_take,
    identifiers_markCollisions, ← List.map_take]
  exact or_left_comm

/-- Behind attributes of the type itself, the extension marks all collisions exactly if it marks
those with the attributes of the type itself for another reason. -/
theorem markedBehind_markCollisions_iff (hzero : ∀ attr ∈ added, attr.duplicates = 0) :
    MarkedBehind elements own (markCollisions (.ofList (elements.map (·.identifier))) added) ↔
      ∀ (index : Nat) (attr : Attribute), added[index]? = some attr →
        attr.identifier ∈ own.map (·.identifier) → attr.Collides elements (added.take index) := by
  refine forall_congr' fun index => ?_
  rw [getElem?_markCollisions]
  cases hattr : added[index]? with
  | none => simp
  | some attr =>
    have hmark : (attr.marked elements (added.take index)).duplicates ≠ 0 ↔
        attr.Collides elements (added.take index) :=
      Attribute.duplicates_marked_ne_zero_iff (hzero attr (List.mem_of_getElem? hattr))
    simp only [Option.map_some, Option.some.injEq, forall_eq', collides_append_markCollisions_iff,
      hmark]
    tauto

/-- Of attributes declared without marks all collisions are marked exactly if they are of the kind
that the extension marks. -/
theorem marksCollisions_iff {members : Members}
    (hown : ∀ attr ∈ own, attr.duplicates = 0) (hadded : ∀ attr ∈ added, attr.duplicates = 0)
    (hattributes : members.attributes =
      own ++ markCollisions (.ofList (members.elements.map (·.identifier))) added) :
    members.MarksCollisions ↔ MarkableAttributes members.elements own added := by
  have hbehind : members.MarksCollisions ↔
      MarkedBehind members.elements [] members.attributes := Iff.rfl
  rw [hbehind, hattributes, markedBehind_append_iff, markedBehind_iff_of_unmarked hown,
    List.nil_append, markedBehind_markCollisions_iff hadded]
  exact ⟨fun ⟨hfree, hshared⟩ => ⟨hfree, hshared⟩, fun h => ⟨h.ownFree, h.sharedMarked⟩⟩

end Marked

/-! ### Compiled types -/

/-- The attributes that a declaration contains: its own, then those of its content. -/
def Declaration.declaredAttributes (declaration : Declaration) : List Attribute :=
  declaration.complexType?.elim [] fun type =>
    type.attributes ++ type.content.elim [] (·.attributes)

/-- A type that says the same as a derived one has the attributes of that one, and so has its
derivation, by the same method. -/
theorem ComplexType.declared_of_forget {found type : ComplexType} {derivation : Derivation}
    (hforget : Declaration.forget (.complex found) = Declaration.forget (.complex type))
    (hcontent : type.content = some derivation) :
    found.attributes = type.attributes ∧ ∃ other, found.content = some other ∧
      other.method = derivation.method ∧ other.attributes = derivation.attributes := by
  have hattributes := congrArg ComplexType.attributes (Declaration.complex.inj hforget)
  have hderived := congrArg ComplexType.content (Declaration.complex.inj hforget)
  simp only [ComplexType.annotate, hcontent, Option.map_some] at hderived
  obtain ⟨other, hother, hsame⟩ := Option.map_eq_some_iff.mp hderived
  have hmethod := congrArg Derivation.method hsame
  have hadded := congrArg Derivation.attributes hsame
  exact ⟨hattributes, other, hother, hmethod, hadded⟩

namespace Registry

variable {registry : Registry} {config : Config} {schema : Schema} {compiled : CompiledType}
  {type : ComplexType} {extension : Derivation}

/-- All attributes of the registered types are declared without a mark. -/
def Unmarked (registry : Registry) : Prop :=
  ∀ entry ∈ registry.entries, ∀ attr ∈ entry.declaration.declaredAttributes, attr.duplicates = 0

instance : Decidable registry.Unmarked :=
  inferInstanceAs (Decidable (∀ entry ∈ registry.entries, _))

/-- A compiled extension has the attributes of the type itself as declared, and behind them those of
the extension with their collisions marked. -/
theorem attributes_of_compile (hok : (registry.compile config).2 = .ok schema)
    (hmem : compiled ∈ schema.types) (hget : registry.get? compiled.id = some (.complex type))
    (hcontent : type.content = some extension) (hmethod : extension.method = .extension) :
    compiled.attributes = type.attributes ++
      markCollisions (.ofList (compiled.elements.map (·.identifier))) extension.attributes := by
  obtain ⟨-, rfl⟩ := compile_eq_ok_iff.mp hok
  obtain ⟨found, hfound, -, hmembers, -⟩ := mem_ofRegistry_iff.mp hmem
  -- Compiling changes what has been recorded in the type, and nothing else.
  have hforget : Declaration.forget (.complex found) = Declaration.forget (.complex type) := by
    have hsame := get?_forget_eq_of_forget
      ((congrArg Registry.forget (fst_compile registry config)).trans
        (forget_lastRun registry config.failFast)) compiled.id
    rw [hfound, hget] at hsame
    exact Option.some.inj hsame
  obtain ⟨hown, derivation, hderivation, hsame, hadded⟩ :=
    ComplexType.declared_of_forget hforget hcontent
  have helements : compiled.elements =
      ((registry.compile config).1.contentMembers derivation).elements :=
    (congrArg Members.elements hmembers.symm).trans (elements_members_of_content hderivation)
  have hattributes := congrArg Members.attributes hmembers.symm
  rw [hattributes, attributes_members_of_content hderivation,
    attributes_contentMembers (hsame.trans hmethod), hown, hadded, helements]

/-- **Which collisions of a compiled extension are marked.** The attributes of the type itself have
no marks. Behind them come those of the extension, marked if they have the identifier of an element
of the type or of an attribute of the extension before them. All collisions of the compiled type
are marked exactly if there are none that involve an attribute of the type itself, other than those
of attributes that are marked anyhow. -/
theorem marksCollisions_compile_iff (hunmarked : registry.Unmarked)
    (hok : (registry.compile config).2 = .ok schema) (hmem : compiled ∈ schema.types)
    (hget : registry.get? compiled.id = some (.complex type))
    (hcontent : type.content = some extension) (hmethod : extension.method = .extension) :
    (∃ added, compiled.attributes = type.attributes ++ added ∧
      added.length = extension.attributes.length ∧
      ∀ (index : Nat) (attr : Attribute), extension.attributes[index]? = some attr →
        added[index]? = some { attr with
          duplicates :=
            if attr.Collides compiled.elements (extension.attributes.take index) then 2 else 0 }) ∧
      (compiled.MarksCollisions ↔
        MarkableAttributes compiled.elements type.attributes extension.attributes) := by
  have hattributes := attributes_of_compile hok hmem hget hcontent hmethod
  have hdeclared (attr : Attribute) (hattr : attr ∈ type.attributes ++ extension.attributes) :
      attr.duplicates = 0 := by
    obtain ⟨entry, hentry, hdeclaration⟩ := Option.map_eq_some_iff.mp hget
    refine hunmarked entry (Array.mem_of_getElem? hentry) attr ?_
    simpa [hdeclaration, Declaration.declaredAttributes, Declaration.complexType?, hcontent]
      using hattr
  have hown (attr : Attribute) (hattr : attr ∈ type.attributes) : attr.duplicates = 0 :=
    hdeclared attr (List.mem_append_left _ hattr)
  have hadded (attr : Attribute) (hattr : attr ∈ extension.attributes) : attr.duplicates = 0 :=
    hdeclared attr (List.mem_append_right _ hattr)
  refine ⟨⟨_, hattributes, length_markCollisions _ _, fun index attr hattr => ?_⟩,
    marksCollisions_iff hown hadded hattributes⟩
  rw [getElem?_markCollisions, hattr, Option.map_some, Attribute.marked_eq,
    if_pos (hadded attr (List.mem_of_getElem? hattr)), hadded attr (List.mem_of_getElem? hattr)]

/-- A type that extends another by one attribute. The type itself has an attribute with the
identifier of an inherited element, and one with that of the attribute of the extension. -/
def coveringType : ComplexType :=
  { ComplexType.ofDerivation ⟨.extension, "Base", [.named "kind"], none, .unknown, none⟩ with
    name := "Order"
    attributes := [.named "id", .named "kind"] }

/-- The type with its base, which has the inherited element. -/
def coveredAttributes : Registry :=
  empty.replay
    [.register (.complex { ComplexType.ofSequence [.named "id"] with name := "Base" }),
      .register (.complex coveringType)]

/-- What is compiled of the type: none of its three attributes has a mark. -/
def compiledCovering : CompiledType where
  elements := [.named "id"]
  attributes := [.named "id", .named "kind", .named "kind"]
  containsText := false
  id := ⟨1⟩
  name := ⟨"", "Order"⟩
  baseChain := [⟨0⟩]

/-- The type is compiled so. -/
theorem compile_coveredAttributes :
    ∃ schema, (coveredAttributes.compile .standard).2 = .ok schema ∧
      compiledCovering ∈ schema.types :=
  ⟨_, compile_eq_ok_iff.mpr ⟨by decide +kernel, rfl⟩, by decide +kernel⟩

/-- A compiled extension may have collisions without a mark: the first attribute of this one has the
identifier of its element. -/
theorem coveredAttributes_not_marksCollisions :
    coveredAttributes.Unmarked ∧
      (∃ schema, (coveredAttributes.compile .standard).2 = .ok schema ∧
        compiledCovering ∈ schema.types) ∧
      coveredAttributes.get? compiledCovering.id = some (.complex coveringType) ∧
      (∃ extension, coveringType.content = some extension ∧ extension.method = .extension) ∧
      ¬compiledCovering.MarksCollisions := by
  refine ⟨by decide +kernel, compile_coveredAttributes, by decide +kernel, ⟨_, rfl, rfl⟩, ?_⟩
  intro hmarks
  exact hmarks 0 (.named "id") rfl (by decide +kernel) rfl

/-- The attribute of the extension in this type has the identifier of one of the type itself, and
stays without a mark, since the extension has no attribute before it. -/
theorem marksCollisions_compile_iff_coveredAttributes :
    coveredAttributes.Unmarked ∧
      ∃ schema, (coveredAttributes.compile .standard).2 = .ok schema ∧
        compiledCovering ∈ schema.types ∧
        coveredAttributes.get? compiledCovering.id = some (.complex coveringType) ∧
        (compiledCovering.MarksCollisions ↔
          MarkableAttributes [.named "id"] [.named "id", .named "kind"] [.named "kind"]) := by
  have hunmarked : coveredAttributes.Unmarked := by decide +kernel
  have hget : coveredAttributes.get? compiledCovering.id = some (.complex coveringType) := by
    decide +kernel
  obtain ⟨schema, hok, hmem⟩ := compile_coveredAttributes
  exact ⟨hunmarked, schema, hok, hmem, hget,
    (marksCollisions_compile_iff hunmarked hok hmem hget rfl rfl).2⟩

end Registry

end XsdDerivation
