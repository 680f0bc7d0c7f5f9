import XsdDerivation.Proofs.TextContent
import XsdDerivation.Proofs.WriteOnce

/-!
# Names in references

A reference is a local name, with a prefix before it or without, and with blanks around that do not
count. Taking a reference apart loses nothing but these blanks, and every reference is taken apart
at its first colon. So whatever a registry has been through, a prefix and a name with a colon
between them refer to the type registered under this name in the namespace of the prefix, and to
nothing if there is no such type.
-/

namespace XsdDerivation

/-! ### Blanks around a text -/

namespace Text

variable {s t before after : List Char}

/-- The second text is what stands between the blanks at the two ends of the first one. -/
structure Trims (s t : List Char) : Prop where
  /-- There are blanks only around it. -/
  around : ∃ before after, before.all isBlank = true ∧ after.all isBlank = true ∧
    s = before ++ t ++ after
  /-- It does not begin with a blank. -/
  first : t.head?.any isBlank = false
  /-- It does not end with a blank. -/
  last : t.getLast?.any isBlank = false

theorem dropWhile_isBlank_of_all (hbefore : before.all isBlank = true) :
    (before ++ s).dropWhile isBlank = s.dropWhile isBlank :=
  List.dropWhile_append_of_pos (List.all_eq_true.mp hbefore)

/-- Nothing is dropped from a text that does not begin with a blank. -/
theorem dropWhile_isBlank_of_first (hfirst : s.head?.any isBlank = false) :
    s.dropWhile isBlank = s := by
  cases s with
  | nil => rfl
  | cons c rest =>
    have hc : isBlank c = false := hfirst
    rw [List.dropWhile_cons, hc, if_neg Bool.false_ne_true]

/-- What is left does not begin with a blank. -/
theorem first_dropWhile_isBlank (s : List Char) :
    (s.dropWhile isBlank).head?.any isBlank = false := by
  have hnot := List.head?_dropWhile_not isBlank s
  cases hfirst : (s.dropWhile isBlank).head? with
  | none => rfl
  | some c =>
    rw [hfirst] at hnot
    exact hnot

/-- Dropping the blanks at the end splits them off. -/
theorem dropTrailingBlanks_append (s : List Char) :
    dropTrailingBlanks s ++ (s.reverse.takeWhile isBlank).reverse = s := by
  rw [dropTrailingBlanks, ← List.reverse_append, List.takeWhile_append_dropWhile,
    List.reverse_reverse]

/-- Trimming leaves what stands between the blanks. -/
theorem trims_trim (s : List Char) : Trims s (trim s) where
  around := by
    refine ⟨s.takeWhile isBlank, ((s.dropWhile isBlank).reverse.takeWhile isBlank).reverse,
      List.all_takeWhile, ?_, ?_⟩
    · rw [List.all_reverse]
      exact List.all_takeWhile
    · rw [List.append_assoc, trim, dropTrailingBlanks_append, List.takeWhile_append_dropWhile]
  first := by
    have hfirst := first_dropWhile_isBlank s
    rw [← dropTrailingBlanks_append (s.dropWhile isBlank), ← trim, List.head?_append] at hfirst
    cases htrim : (trim s).head? with
    | none => rfl
    | some c => rwa [htrim] at hfirst
  last := by
    rw [trim, dropTrailingBlanks, List.getLast?_reverse]
    exact first_dropWhile_isBlank _

/-- Only one text stands between the blanks. -/
theorem Trims.eq_trim (htrims : Trims s t) : t = trim s := by
  obtain ⟨before, after, hbefore, hafter, rfl⟩ := htrims.around
  have hreverse : after.reverse.all isBlank = true := by rwa [List.all_reverse]
  have hlast : t.reverse.head?.any isBlank = false := by
    rw [List.head?_reverse]
    exact htrims.last
  -- Where nothing but blanks is, those after the empty text are dropped with those before it.
  have hdrop : (t ++ after).dropWhile isBlank = t ++ after ∨ t = [] := by
    cases t with
    | nil => exact .inr rfl
    | cons c rest => exact .inl (dropWhile_isBlank_of_first htrims.first)
  rw [trim, List.append_assoc, dropWhile_isBlank_of_all hbefore]
  rcases hdrop with hdrop | rfl
  · rw [hdrop, dropTrailingBlanks, List.reverse_append, dropWhile_isBlank_of_all hreverse,
      dropWhile_isBlank_of_first hlast, List.reverse_reverse]
  · rw [List.nil_append, List.dropWhile_eq_nil_iff.mpr (List.all_eq_true.mp hafter)]
    rfl

end Text

/-! ### Taking references apart -/

namespace Reference

variable {text : String} {reference : Reference} {qualifier : List Char}

/-- The text of a reference without blanks around. -/
def render (reference : Reference) : String :=
  match reference.qualifier with
  | none => reference.localPart
  | some qualifier => qualifier ++ ":" ++ reference.localPart

/-- The text stands for the reference, which is split off at the first colon. -/
structure Spells (text : String) (reference : Reference) : Prop where
  /-- The text is that of the reference with blanks around. -/
  trims : Text.Trims text.toList reference.render.toList
  /-- A prefix has no colon. -/
  qualifier : ∀ qualifier ∈ reference.qualifier, ':' ∉ qualifier.toList
  /-- A reference without a prefix has no colon at all. -/
  localPart : reference.qualifier = none → ':' ∉ reference.localPart.toList

theorem toList_render_some (qualifier localPart : String) :
    (render ⟨some qualifier, localPart⟩).toList =
      qualifier.toList ++ ':' :: localPart.toList := by
  simp [render]

theorem all_ne_colon {rest : List Char} (hcolon : ':' ∉ rest) :
    ∀ c ∈ rest, decide (c ≠ ':') = true := by
  intro c hc
  rw [decide_eq_true_eq]
  rintro rfl
  exact hcolon hc

theorem splitAtColon_of_not_mem {rest : List Char} (hcolon : ':' ∉ rest) :
    splitAtColon rest = (none, rest) := by
  have hnone : rest.dropWhile (· ≠ ':') = [] :=
    List.dropWhile_eq_nil_iff.mpr (all_ne_colon hcolon)
  rw [splitAtColon, hnone]

theorem splitAtColon_append (hcolon : ':' ∉ qualifier) (rest : List Char) :
    splitAtColon (qualifier ++ ':' :: rest) = (some qualifier, rest) := by
  have hbefore := all_ne_colon hcolon
  rw [splitAtColon, List.dropWhile_append_of_pos hbefore, List.takeWhile_append_of_pos hbefore]
  simp

/-- Every text stands for the reference that it is taken apart to. -/
theorem spells_ofText (text : String) : Spells text (ofText text) := by
  have htrims := Text.trims_trim text.toList
  by_cases hcolon : ':' ∈ Text.trim text.toList
  · obtain ⟨qualifier, rest, htext, hfirst⟩ := List.eq_append_cons_of_mem hcolon
    have hof : ofText text = ⟨some (.ofList qualifier), .ofList rest⟩ := by
      rw [ofText, htext, splitAtColon_append hfirst]
      rfl
    rw [hof]
    rw [htext] at htrims
    refine ⟨by simpa [Reference.render] using htrims, ?_, fun hnone => by cases hnone⟩
    rintro _ hqualifier
    rw [← Option.mem_some.mp hqualifier, String.toList_ofList]
    exact hfirst
  · have hof : ofText text = ⟨none, .ofList (Text.trim text.toList)⟩ := by
      rw [ofText, splitAtColon_of_not_mem hcolon]
      rfl
    rw [hof]
    refine ⟨by simpa [Reference.render] using htrims, (fun _ hnone => by cases hnone), fun _ => ?_⟩
    rw [String.toList_ofList]
    exact hcolon

/-- A text stands for one reference only. -/
theorem Spells.ofText_eq (hspells : Spells text reference) : ofText text = reference := by
  obtain ⟨qualifier, localPart⟩ := reference
  have htrim := hspells.trims.eq_trim
  cases qualifier with
  | none =>
    have hsplit := splitAtColon_of_not_mem (hspells.localPart rfl)
    rw [ofText, ← htrim, render]
    dsimp only at hsplit ⊢
    rw [hsplit, Option.map_none, String.ofList_toList]
  | some qualifier =>
    have hsplit := splitAtColon_append (hspells.qualifier qualifier rfl) localPart.toList
    rw [← toList_render_some] at hsplit
    rw [ofText, ← htrim, hsplit]
    simp

section Around

variable {before after qualifier localPart : String} (hbefore : isBlank before = true)
  (hafter : isBlank after = true) (hlast : localPart.toList.getLast?.any Text.isBlank = false)

include hbefore hafter hlast

/-- A prefix and a local name with a colon between them stand for the two, whatever blanks are
around. -/
theorem ofText_qualified (hcolon : ':' ∉ qualifier.toList)
    (hfirst : qualifier.toList.head?.any Text.isBlank = false) :
    ofText (before ++ qualifier ++ ":" ++ localPart ++ after) = ⟨some qualifier, localPart⟩ := by
  have hblank : Text.isBlank ':' = false := by decide
  refine Spells.ofText_eq ⟨⟨⟨before.toList, after.toList, hbefore, hafter, ?_⟩, ?_, ?_⟩, ?_, ?_⟩
  · simp [toList_render_some]
  · rw [toList_render_some]
    cases hlist : qualifier.toList with
    | nil => exact hblank
    | cons c rest => rwa [hlist] at hfirst
  · rw [toList_render_some, List.getLast?_append_cons]
    cases hlist : localPart.toList with
    | nil => exact hblank
    | cons c rest =>
      rw [hlist] at hlast
      rwa [List.getLast?_cons_cons]
  · rintro _ hqualifier
    rw [← Option.mem_some.mp hqualifier]
    exact hcolon
  · intro hnone
    cases hnone

/-- A local name without a colon stands for itself, whatever blanks are around. -/
theorem ofText_unqualified (hcolon : ':' ∉ localPart.toList)
    (hfirst : localPart.toList.head?.any Text.isBlank = false) :
    ofText (before ++ localPart ++ after) = ⟨none, localPart⟩ := by
  refine Spells.ofText_eq ⟨⟨⟨before.toList, after.toList, hbefore, hafter, ?_⟩, hfirst, hlast⟩,
    ?_, fun _ => hcolon⟩
  · simp [render]
  · rintro _ hnone
    cases hnone

end Around

end Reference

/-! ### Names that references address -/

namespace Registry

variable {registry other start : Registry} {allowed : Operation → Prop}

/-- What the references to a registry address. -/
structure Addresses (registry : Registry) : Prop where
  /-- A bound prefix and a local name address the type registered under the name in the namespace of
  the prefix, and nothing if there is no such type. The local name may have colons. -/
  qualified : ∀ before qualifier space localPart after : String,
    Reference.isBlank before = true → Reference.isBlank after = true →
    registry.namespaceOf? qualifier = some space → ':' ∉ qualifier.toList →
    qualifier.toList.head?.any Text.isBlank = false →
    localPart.toList.getLast?.any Text.isBlank = false →
    ∀ id,
      registry.findReferenced? (before ++ qualifier ++ ":" ++ localPart ++ after) = some id ↔
        registry.nameOf? id = some ⟨space, localPart⟩
  /-- A local name alone addresses the type registered under it in the target namespace, and nothing
  if there is no such type. -/
  unqualified : ∀ before localPart after : String,
    Reference.isBlank before = true → Reference.isBlank after = true →
    ':' ∉ localPart.toList →
    localPart.toList.head?.any Text.isBlank = false →
    localPart.toList.getLast?.any Text.isBlank = false →
    ∀ id,
      registry.findReferenced? (before ++ localPart ++ after) = some id ↔
        registry.nameOf? id = some ⟨registry.targetNamespace, localPart⟩
  /-- A reference whose prefix is not bound addresses nothing. -/
  unbound : ∀ text, ∀ qualifier ∈ (Reference.ofText text).qualifier,
    registry.namespaceOf? qualifier = none →
      registry.resolve? text = none ∧ registry.findReferenced? text = none

theorem IndexExact.of_forget (hexact : registry.IndexExact)
    (hsame : other.forget = registry.forget) : other.IndexExact := by
  have hfind : other.find? = registry.find? :=
    calc other.find? = other.forget.find? := rfl
      _ = registry.forget.find? := by rw [hsame]
      _ = registry.find? := rfl
  intro name id
  rw [hfind, nameOf?_eq_of_forget hsame]
  exact hexact name id

/-- Whatever is done to a registry, its index goes on to say what its types do. -/
theorem Step.indexExact (hstep : Step allowed registry other) (hexact : registry.IndexExact) :
    other.IndexExact := by
  cases hstep with
  | visit run parent id => exact hexact.of_forget (run.visit_spec parent id).forget_eq
  | @operate _ operation =>
    cases operation with
    | visits calls => exact hexact.of_forget (Run.writes_visitEach registry calls).forget_eq
    | resolve failFast => exact hexact.of_forget (forget_lastRun registry failFast)
    | compile config =>
      rw [Operation.apply, fst_compile]
      exact hexact.of_forget (forget_lastRun registry config.failFast)
    | _ => exact Operation.indexExact_apply rfl hexact

theorem Becomes.indexExact (hbecomes : start.Becomes allowed registry)
    (hexact : start.IndexExact) : registry.IndexExact := by
  induction hbecomes with
  | refl => exact hexact
  | tail _ hstep ih => exact hstep.indexExact ih

/-- Where the index is exact references address the registered names. -/
theorem IndexExact.addresses (hexact : registry.IndexExact) : registry.Addresses where
  qualified before qualifier space localPart after hbefore hafter hbound hcolon hfirst hlast := by
    intro id
    have hof := Reference.ofText_qualified hbefore hafter hlast hcolon hfirst
    rw [findReferenced?, resolve?_of_qualifier (congrArg Reference.qualifier hof), hbound, hof]
    exact hexact _ id
  unqualified before localPart after hbefore hafter hcolon hfirst hlast := by
    intro id
    have hof := Reference.ofText_unqualified hbefore hafter hlast hcolon hfirst
    rw [findReferenced?, resolve?, hof]
    exact hexact _ id
  unbound text qualifier hqualifier hunbound := by
    have hresolve : registry.resolve? text = none := by
      rw [resolve?_of_qualifier (Option.mem_def.mp hqualifier), hunbound, Option.map_none]
    exact ⟨hresolve, by rw [findReferenced?, hresolve, Option.bind_none]⟩

/-- **References address exactly the registered names.** Taking a text apart loses only the blanks
around it, and whatever a registry has been through, its references address the types under the
names that they give, and no others. -/
theorem Becomes.addresses_registered (hstart : start = empty ∨ ∃ config, start = ofConfig config)
    (hbecomes : start.Becomes (fun _ => True) registry) :
    (∀ text, Reference.Spells text (Reference.ofText text)) ∧ registry.Addresses := by
  have hexact : start.IndexExact := by
    rcases hstart with rfl | ⟨config, rfl⟩
    · exact indexExact_empty
    · exact indexExact_ofConfig config
  exact ⟨Reference.spells_ofText, (hbecomes.indexExact hexact).addresses⟩

/-- A type with a colon in its local name is registered, then one that extends it, and both are
compiled. The empty prefix is bound too. -/
def colonInName : List Operation :=
  [.setTarget "urn:t", .bind "p" "urn:a", .bind "" "urn:a",
    .registerAs ⟨"urn:a", "b:c"⟩ (.simple ⟨"b:c", .unknown⟩),
    .register (.extending "Leaf" "p:b:c" none), .compile .standard]

/-- Only the first colon of a reference ends a prefix, and blanks count unless they are around. -/
theorem addresses_registered_colonInName :
    empty.Becomes (fun _ => True) (empty.replay colonInName) ∧
      ["\tp:b:c\u00a0", "::b:c", ":b:c", "p: b:c", "Leaf\n", "b:c"].map
        (empty.replay colonInName).findReferenced? =
          [some ⟨0⟩, none, some ⟨0⟩, none, some ⟨1⟩, none] ∧
      (∀ text, Reference.Spells text (Reference.ofText text)) ∧
      (empty.replay colonInName).Addresses := by
  have hbecomes : empty.Becomes (fun _ => True) (empty.replay colonInName) :=
    becomes_replay fun _ _ => trivial
  exact ⟨hbecomes, by decide +kernel, hbecomes.addresses_registered (.inl rfl)⟩

end Registry

end XsdDerivation
