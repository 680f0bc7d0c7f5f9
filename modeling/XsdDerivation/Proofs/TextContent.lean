import XsdDerivation.Proofs.SameTypes
import XsdDerivation.Proofs.Success

/-!
# Text content

In a registry made from a configuration with the prefix `xsd` the reference `xsd:string` names the
built-in type of strings, whatever is bound or registered later. A base that is so written is a
type that carries text, so that whether a compiled type does is decided by its resolved bases.
-/

namespace XsdDerivation

namespace Declaration

/-- Whether text may stand between the elements. -/
def isMixed (declaration : Declaration) : Bool :=
  declaration.complexType?.any (·.mixed)

/-- Whether the values of the type are text. A complex type has no values. -/
def isText : Declaration → Bool
  | .builtin type => type.containsText
  | .simple _ => true
  | .complex _ => false

variable {find : String → Option TypeId}

@[simp] theorem isMixed_resolved (declaration : Declaration) :
    (declaration.resolved find).isMixed = declaration.isMixed := by
  cases declaration <;> rfl

@[simp] theorem isText_resolved (declaration : Declaration) :
    (declaration.resolved find).isText = declaration.isText := by
  cases declaration <;> rfl

end Declaration

namespace Registry

variable {registry : Registry} {id base : TypeId} {chain : List TypeId}
  {declaration next : Declaration}

/-- Whether the type with this id is mixed. -/
def isMixed (registry : Registry) (id : TypeId) : Bool :=
  (registry.get? id).any Declaration.isMixed

/-- Whether the values of the type with this id are text. -/
def isText (registry : Registry) (id : TypeId) : Bool :=
  (registry.get? id).any Declaration.isText

/-- Resolving does not change which types are mixed. -/
theorem isMixed_resolved : registry.resolved.isMixed = registry.isMixed := by
  funext id
  rw [isMixed, isMixed, get?_resolved]
  cases registry.get? id with
  | none => rfl
  | some declaration => exact declaration.isMixed_resolved

/-- Resolving does not change which values are text. -/
theorem isText_resolved : registry.resolved.isText = registry.isText := by
  funext id
  rw [isText, isText, get?_resolved]
  cases registry.get? id with
  | none => rfl
  | some declaration => exact declaration.isText_resolved

/-! ### The type of strings -/

/-- The reference `xsd:string` names the built-in type of strings. -/
def HasString (registry : Registry) : Prop :=
  ∃ id, registry.findReferenced? "xsd:string" = some id ∧
    registry.get? id = some (.builtin .string)

/-- A reference with a prefix names a type in the namespace of the prefix. -/
theorem resolve?_of_qualifier {reference qualifier : String}
    (hqualifier : (Reference.ofText reference).qualifier = some qualifier) :
    registry.resolve? reference = (registry.namespaceOf? qualifier).map fun space =>
      ⟨space, (Reference.ofText reference).localPart⟩ := by
  unfold resolve?
  simp only [hqualifier]

/-- No operation on a registry that is being filled takes the type of strings away. -/
theorem HasString.apply {operation : Operation} (hstring : registry.HasString)
    (hdeclares : operation.declares = true) : (operation.apply registry).HasString := by
  obtain ⟨id, hfind, hget⟩ := hstring
  have hfills (hfills : operation.fills = true) : (operation.apply registry).HasString := by
    have hgrows := Operation.grows_apply hfills registry
    exact ⟨id, hgrows.find_eq _ id hfind, hgrows.get?_eq id _ hget⟩
  cases operation with
  | setTarget space =>
    have hqualifier : (Reference.ofText "xsd:string").qualifier = some "xsd" := by decide
    rw [findReferenced?, resolve?_of_qualifier hqualifier] at hfind
    refine ⟨id, ?_, hget⟩
    rw [findReferenced?, resolve?_of_qualifier hqualifier]
    exact hfind
  | _ => exact hfills hdeclares

theorem declared?_with_bindings (registry : Registry) (bindings : Std.TreeMap String String)
    (space : String) (name : QualifiedName) :
    ({ registry with bindings, targetNamespace := space } : Registry).declared? name =
      registry.declared? name := rfl

/-- What is declared under a name stays when more types are registered. -/
theorem IndexExact.declared?_addEach {name : QualifiedName} (hexact : registry.IndexExact)
    (hdeclared : registry.declared? name = some declaration) (types : List Entry) :
    (registry.addEach types).declared? name = some declaration := by
  induction types generalizing registry with
  | nil => exact hdeclared
  | cons entry types ih =>
    refine ih (hexact.addNew _ _) ?_
    rw [hexact.declared?_addNew]
    split
    · rename_i hsame
      rw [hsame, hdeclared, Option.getD_some]
    · exact hdeclared

/-- The prefixes that are bound from the start are those of the configuration. -/
theorem namespaceOf?_ofConfig {config : Config} {qualifier : String}
    (hmem : qualifier ∈ config.xsdPrefixes) :
    (ofConfig config).namespaceOf? qualifier = some xsdNamespace := by
  have hinsert (prefixes : List String) (bindings : Std.TreeMap String String)
      (hbound : qualifier ∈ prefixes ∨ bindings[qualifier]? = some xsdNamespace) :
      (prefixes.foldl (fun bindings qualifier => bindings.insert qualifier xsdNamespace)
        bindings)[qualifier]? = some xsdNamespace := by
    induction prefixes generalizing bindings with
    | nil => simpa using hbound
    | cons first prefixes ih =>
      refine ih _ ?_
      rcases hbound with hmem | hbound
      · rcases List.mem_cons.mp hmem with rfl | hmem
        · exact .inr Std.TreeMap.getElem?_insert_self
        · exact .inl hmem
      · right
        rw [Std.TreeMap.getElem?_insert]
        split
        · rfl
        · exact hbound
  exact hinsert config.xsdPrefixes _ (.inl hmem)

/-- The type of strings is there from the start. -/
theorem hasString_ofConfig {config : Config} (hxsd : "xsd" ∈ config.xsdPrefixes) :
    (ofConfig config).HasString := by
  have hqualifier : (Reference.ofText "xsd:string").qualifier = some "xsd" := by decide
  have hlocal : (Reference.ofText "xsd:string").localPart = "string" := by decide
  -- The type of strings is registered first, under a name that is not taken.
  have hfirst : (empty.addNew ⟨xsdNamespace, "string"⟩ (.builtin .string)).declared?
      ⟨xsdNamespace, "string"⟩ = some (.builtin .string) := by
    rw [indexExact_empty.declared?_addNew, if_pos rfl]
    rfl
  have hbuiltins : empty.registerBuiltins.declared? ⟨xsdNamespace, "string"⟩ =
      some (.builtin .string) := by
    have hall : Builtin.all = .string :: Builtin.all.tail := rfl
    rw [registerBuiltins_eq_addEach, hall, List.map_cons, addEach_cons]
    exact (indexExact_empty.addNew _ _).declared?_addEach hfirst _
  have hdeclared : (ofConfig config).declared? ⟨xsdNamespace, "string"⟩ =
      some (.builtin .string) := (declared?_with_bindings ..).trans hbuiltins
  obtain ⟨id, hid, hget⟩ := Option.bind_eq_some_iff.mp hdeclared
  refine ⟨id, ?_, hget⟩
  rw [findReferenced?, resolve?_of_qualifier hqualifier, namespaceOf?_ofConfig hxsd, hlocal,
    Option.map_some, Option.bind_some, hid]

/-! ### Text along the chain of bases -/

/-- A type that is not derived carries text if it is mixed or its values are text. -/
theorem containsText_of_plain (hplain : declaration.derivation? = none) :
    Lineage.containsText [declaration] = (declaration.isMixed || declaration.isText) := by
  cases declaration with
  | builtin type => rfl
  | simple type => rfl
  | complex type =>
    have hcontent : type.content = none := hplain
    simp only [Lineage.containsText, hcontent]
    rfl

/-- A derived type carries text if it is mixed, if its base is written in one way, or if its base
carries text. -/
theorem containsText_of_derived {derivation : Derivation} (bases : List Declaration)
    (hderived : declaration.derivation? = some derivation) :
    Lineage.containsText (declaration :: bases) =
      (declaration.isMixed || (derivation.base == "xsd:string" || Lineage.containsText bases)) := by
  cases declaration with
  | builtin type => cases hderived
  | simple type => cases hderived
  | complex type =>
    have hcontent : type.content = some derivation := hderived
    simp only [Lineage.containsText, hcontent]
    rfl

theorem isMixed_of_get? (hget : registry.get? id = some declaration) :
    registry.isMixed id = declaration.isMixed := by
  rw [isMixed, hget, Option.any_some]

theorem isText_of_get? (hget : registry.get? id = some declaration) :
    registry.isText id = declaration.isText := by
  rw [isText, hget, Option.any_some]

/-- A type with recorded bases has a declaration. -/
theorem HasBases.exists_get? (hbases : registry.HasBases id chain) :
    ∃ declaration, registry.get? id = some declaration := by
  cases hbases with
  | root hget => exact ⟨_, hget⟩
  | derived hget => exact ⟨_, hget⟩

/-- Once all bases are recorded a type that is not derived carries text if it is mixed or its values
are text. -/
theorem containsText_of_root (hplain : declaration.derivation? = none) :
    Lineage.containsText
        (registry.resolved.lineage (declaration.resolved registry.findReferenced?)) =
      (declaration.isMixed || declaration.isText) := by
  have hlast : registry.resolved.baseDeclaration?
      (declaration.resolved registry.findReferenced?) = none := by
    rw [baseDeclaration?, Declaration.recordedBase?_resolved, Declaration.base?, hplain]
    rfl
  have hresolved : (declaration.resolved registry.findReferenced?).derivation? = none := by
    rw [Declaration.resolved, Declaration.derivation?_annotate, hplain, Option.map_none]
  rw [lineage_of_none hlast, containsText_of_plain hresolved, Declaration.isMixed_resolved,
    Declaration.isText_resolved]

/-- Once all bases are recorded a derived type carries text if it is mixed or its base carries text,
however the base is written. -/
theorem WellFormed.containsText_of_base (hformed : registry.WellFormed)
    (hstring : registry.HasString) {derivation : Derivation}
    (hget : registry.get? id = some declaration)
    (hderived : declaration.derivation? = some derivation)
    (hbase : registry.findReferenced? derivation.base = some base)
    (hnext : registry.get? base = some next) :
    Lineage.containsText
        (registry.resolved.lineage (declaration.resolved registry.findReferenced?)) =
      (declaration.isMixed || Lineage.containsText
        (registry.resolved.lineage (next.resolved registry.findReferenced?))) := by
  obtain ⟨hblank, -⟩ := hformed.bases id declaration derivation hget hderived
  have hrecorded : registry.resolved.baseDeclaration?
      (declaration.resolved registry.findReferenced?) =
        some (next.resolved registry.findReferenced?) := by
    rw [baseDeclaration?, Declaration.recordedBase?_resolved, Declaration.base?, hderived,
      Option.bind_some, Derivation.base?, hblank, if_neg Bool.false_ne_true, hbase,
      Option.bind_some, get?_resolved, hnext, Option.map_some]
  have hends : registry.resolved.ChainEnds (declaration.resolved registry.findReferenced?) := by
    refine chainEnds_of_not_loops (fun id => ?_) _
    rw [recordedBase?_resolved]
    exact hformed.acyclic id
  have hresolved : (declaration.resolved registry.findReferenced?).derivation? =
      some (derivation.annotate (Element.resolved registry.findReferenced?)
        (derivation.base? registry.findReferenced?)) := by
    rw [Declaration.resolved, Declaration.derivation?_annotate, hderived, Option.map_some]
  -- A base that is written `xsd:string` is the built-in type, so that its lineage carries text.
  have hliteral (hwritten : derivation.base = "xsd:string") : Lineage.containsText
      (registry.resolved.lineage (next.resolved registry.findReferenced?)) = true := by
    obtain ⟨string, hfind, hstring⟩ := hstring
    rw [hwritten, hfind, Option.some.injEq] at hbase
    rw [← hbase, hstring, Option.some.injEq] at hnext
    rw [← hnext]
    rfl
  rw [hends.lineage_eq hrecorded, containsText_of_derived _ hresolved, Declaration.isMixed_resolved]
  dsimp only [Derivation.annotate]
  by_cases hwritten : derivation.base = "xsd:string"
  · rw [hliteral hwritten, Bool.or_true]
  · rw [beq_eq_false_iff_ne.mpr hwritten, Bool.false_or]

/-- **Text along a chain of bases.** Once all bases are recorded a type carries text if it or one of
its bases is mixed, or if the values of the last of them are text. -/
theorem WellFormed.containsText_lineage (hformed : registry.WellFormed)
    (hstring : registry.HasString) (hbases : registry.HasBases id chain)
    (hget : registry.get? id = some declaration) :
    Lineage.containsText
        (registry.resolved.lineage (declaration.resolved registry.findReferenced?)) =
      ((id :: chain).any registry.isMixed || (id :: chain).getLast?.any registry.isText) := by
  induction hbases generalizing declaration with
  | @root id declared hdeclared hplain =>
    rw [hget, Option.some.injEq] at hdeclared
    subst hdeclared
    rw [containsText_of_root hplain]
    simp [isMixed_of_get? hget, isText_of_get? hget]
  | @derived id base chain declared derivation hdeclared hderived hbase hrest ih =>
    rw [hget, Option.some.injEq] at hdeclared
    subst hdeclared
    obtain ⟨next, hnext⟩ := hrest.exists_get?
    calc Lineage.containsText
          (registry.resolved.lineage (declaration.resolved registry.findReferenced?))
        = (declaration.isMixed || Lineage.containsText
            (registry.resolved.lineage (next.resolved registry.findReferenced?))) :=
          hformed.containsText_of_base hstring hget hderived hbase hnext
      _ = (registry.isMixed id ||
            ((base :: chain).any registry.isMixed ||
              (base :: chain).getLast?.any registry.isText)) := by
          rw [ih hnext, isMixed_of_get? hget]
      _ = ((id :: base :: chain).any registry.isMixed ||
            (id :: base :: chain).getLast?.any registry.isText) := by
          rw [List.getLast?_cons_cons]
          exact (Bool.or_assoc ..).symm

/-- A registry that has never been compiled is compiled without a fault only if it is well-formed,
and then everything is resolved. -/
theorem NeverCompiled.of_compile_ok (hnever : registry.NeverCompiled) {config : Config}
    {schema : Schema} (hok : (registry.compile config).2 = .ok schema) :
    registry.WellFormed ∧ (registry.compile config).1 = registry.resolved ∧
      schema = Schema.ofRegistry registry.resolved := by
  obtain ⟨hnil, hschema⟩ := compile_eq_ok_iff.mp hok
  have hresolved : (registry.compile config).1 = registry.resolved := by
    rw [fst_compile]
    exact registry_lastRun_of_faults_eq_nil hnever.indexed hnever.grounded.consistent hnil
  rw [hresolved] at hschema
  refine ⟨?_, hresolved, hschema.symm⟩
  rw [hnever.indexed.faults_eq_nil_iff] at hnil
  simpa only [wellFormed_iff, hnever.grounded.faultAhead?_eq] using hnil

/-- **Text content is a matter of resolved bases.** A registry is made from a configuration with the
prefix `xsd`, filled, and compiled for the first time. Then a type of the schema carries text
exactly if it or one of its bases is mixed, or if the values of its last base are text. How bases
are written does not matter. -/
theorem containsText_eq {config run : Config} {history : List Operation} {schema : Schema}
    {type : CompiledType} (hxsd : "xsd" ∈ config.xsdPrefixes)
    (hhistory : ∀ operation ∈ history, operation.declares = true)
    (hok : (((ofConfig config).replay history).compile run).2 = .ok schema)
    (hmem : type ∈ schema.types) :
    type.containsText =
      ((type.id :: type.baseChain).any
          (((ofConfig config).replay history).compile run).1.isMixed ||
        type.baseChain.getLast?.any
          (((ofConfig config).replay history).compile run).1.isText) := by
  have hnever := (neverCompiled_ofConfig config).replay_declares hhistory
  have hstring : ((ofConfig config).replay history).HasString :=
    replay_induction (fun _ hstring operation hoperation =>
      hstring.apply (hhistory operation hoperation)) (hasString_ofConfig hxsd)
  generalize (ofConfig config).replay history = registry at hok hnever hstring
  obtain ⟨hformed, hafter, rfl⟩ := hnever.of_compile_ok hok
  obtain ⟨complex, hget, -, hmembers, hchain⟩ := mem_ofRegistry_iff.mp hmem
  rw [get?_resolved] at hget
  obtain ⟨declaration, hdeclaration, hresolved⟩ := Option.map_eq_some_iff.mp hget
  have hbases := hformed.hasBases_baseChain hnever.indexed
    (by rw [hdeclaration]; exact Option.some_ne_none declaration)
  have htext := hformed.containsText_lineage hstring hbases hdeclaration
  rw [hresolved, hchain] at htext
  have hself : type.containsText =
      Lineage.containsText (registry.resolved.lineage (.complex complex)) :=
    congrArg Members.containsText hmembers.symm
  rw [hself, htext, hafter, isMixed_resolved, isText_resolved]
  cases type.baseChain with
  | nil =>
    -- The type has no base, and it has no values itself.
    have hcomplex : registry.isText type.id = false := by
      rw [isText_of_get? hdeclaration, ← declaration.isText_resolved, hresolved]
      rfl
    simp [hcomplex]
  | cons base chain => rw [List.getLast?_cons_cons]

/-- A mixed type, a type that extends it, and types that are derived from strings and numbers. -/
def proseHistory : List Operation :=
  [.register (.complex { ComplexType.ofSequence [] with name := "Prose", mixed := true }),
    .register (.extending "Chapter" "Prose" none),
    .register (.complex { ComplexType.ofDerivation
      ⟨.restriction, "xsd:token", [], none, .unknown, none⟩ with name := "Word" }),
    .register (.extending "Count" "xsd:int" none)]

/-- Of these types the last one does not carry text. -/
theorem containsText_eq_proseHistory :
    "xsd" ∈ Config.standard.xsdPrefixes ∧
      (∀ operation ∈ proseHistory, operation.declares = true) ∧
      ∃ schema, (((ofConfig .standard).replay proseHistory).compile .standard).2 = .ok schema ∧
        schema.types.map (·.containsText) = [true, true, true, false] ∧
        ∀ type ∈ schema.types, type.containsText =
          ((type.id :: type.baseChain).any
              (((ofConfig .standard).replay proseHistory).compile .standard).1.isMixed ||
            type.baseChain.getLast?.any
              (((ofConfig .standard).replay proseHistory).compile .standard).1.isText) := by
  have hxsd : "xsd" ∈ Config.standard.xsdPrefixes := by decide
  have hhistory : ∀ operation ∈ proseHistory, operation.declares = true := by decide
  have hrun : (((ofConfig .standard).replay proseHistory).compile .standard).2.toOption.map
      (·.types.map (·.containsText)) = some [true, true, true, false] := by decide +kernel
  obtain ⟨schema, hok, htext⟩ := exists_schema_of_read hrun
  exact ⟨hxsd, hhistory, schema, hok, htext,
    fun type hmem => containsText_eq hxsd hhistory hok hmem⟩

end Registry

end XsdDerivation
