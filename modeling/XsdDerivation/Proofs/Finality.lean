import XsdDerivation.Proofs.Incremental
import XsdDerivation.Proofs.Lineage
import XsdDerivation.Proofs.WriteOnce

/-!
# Final types

A pass without a fault leaves no reference unrecorded. Since references are recorded once, whatever
is done afterwards leaves the registered types as they are, and with them what they offer: the
schema of a later success begins with the types of the earlier one.
-/

namespace XsdDerivation

variable {find : String → Option TypeId} {registry other : Registry}

/-! ### Closed declarations -/

/-- An element that has its type recorded is not changed any more. -/
theorem Element.Records.eq_of_isRecorded {before after : Element}
    (hrecords : before.Records find after) (hrecorded : before.IsRecorded) : after = before := by
  have htype : after.resolvedType = before.resolvedType := by
    cases hbefore : before.resolvedType with
    | some type => exact hrecords.kept type hbefore
    | none =>
      cases hafter : after.resolvedType with
      | none => rfl
      | some type =>
        obtain ⟨reference, hreference, _⟩ := hrecords.named type hbefore hafter
        exact absurd hbefore (hrecorded (by rw [hreference]; exact Option.some_ne_none reference))
  calc after = { after.forget with resolvedType := after.resolvedType } := rfl
    _ = { before.forget with resolvedType := before.resolvedType } := by
      rw [hrecords.forget_eq, htype]
    _ = before := rfl

/-- Sequences that say the same have the same number of elements. -/
theorem length_eq_of_forget {before after : Option (List Element)}
    (hforget : after.map (·.map Element.forget) = before.map (·.map Element.forget)) :
    (after.getD []).length = (before.getD []).length := by
  cases before with
  | none =>
    obtain rfl := Option.map_eq_none_iff.mp hforget
    rfl
  | some elements =>
    cases after with
    | none => cases hforget
    | some changed => simpa using congrArg List.length (Option.some.inj hforget)

/-- Sequences that say the same are equal if they have the same elements. -/
theorem sequence_eq_of_forget {before after : Option (List Element)}
    (hforget : after.map (·.map Element.forget) = before.map (·.map Element.forget))
    (helements : after.getD [] = before.getD []) : after = before := by
  cases before with
  | none => exact Option.map_eq_none_iff.mp hforget
  | some elements =>
    cases after with
    | none => cases hforget
    | some changed => exact congrArg some helements

/-- A derivation for which nothing remains to be done has its base recorded. -/
theorem Derivation.resolvedBase_of_prepare {parent : Option Element} {derivation : Derivation}
    (hnothing : (derivation.prepare registry parent).2 = .nothing) :
    derivation.resolvedBase ≠ none := by
  intro hnone
  rw [prepare_of_unrecorded hnone] at hnothing
  cases hsequence : (resolveSequence registry derivation.sequence).2 with
  | some fault =>
    rw [hsequence] at hnothing
    cases hnothing
  | none =>
    rw [hsequence, Option.elim_none] at hnothing
    unfold findBase at hnothing
    split at hnothing
    · cases hnothing
    · split at hnothing <;> cases hnothing

namespace Declaration

variable {declaration before after prepared : Declaration} {parent : Option Element}

/-- All references of the declaration have been recorded. -/
structure IsClosed (declaration : Declaration) : Prop where
  /-- Elements that name a type have it recorded. -/
  elements : ∀ element ∈ declaration.declaredElements, element.IsRecorded
  /-- A derived type has its base recorded. -/
  base : declaration.derivation? ≠ none → declaration.recordedBase? ≠ none

/-- Declarations that say the same are equal if the same is recorded in them. -/
theorem eq_of_forget (hforget : after.forget = before.forget)
    (helements : after.declaredElements = before.declaredElements)
    (hbase : after.recordedBase? = before.recordedBase?) : after = before := by
  cases before with
  | builtin type => cases after <;> cases hforget; rfl
  | simple type => cases after <;> cases hforget; rfl
  | complex type =>
    cases after with
    | builtin => cases hforget
    | simple => cases hforget
    | complex changed =>
      obtain ⟨name, mixed, own, attributes, content, position⟩ := type
      obtain ⟨name', mixed', own', attributes', content', position'⟩ := changed
      simp only [forget, annotate, ComplexType.annotate, complex.injEq,
        ComplexType.mk.injEq] at hforget
      obtain ⟨rfl, rfl, hown, rfl, hcontent, rfl⟩ := hforget
      -- The two sequences of the types have the same lengths, so that their elements are the same.
      obtain ⟨hfirst, hsecond⟩ := List.append_inj helements (length_eq_of_forget hown)
      obtain rfl := sequence_eq_of_forget hown hfirst
      cases content with
      | none =>
        obtain rfl := Option.map_eq_none_iff.mp hcontent
        rfl
      | some derivation =>
        cases content' with
        | none => cases hcontent
        | some changed =>
          obtain ⟨method, base, attributes, sequence, position, recorded⟩ := derivation
          obtain ⟨method', base', attributes', sequence', position', recorded'⟩ := changed
          simp only [Option.map_some, Option.some.injEq, Derivation.annotate,
            Derivation.mk.injEq, and_true] at hcontent
          obtain ⟨rfl, rfl, rfl, hinner, rfl⟩ := hcontent
          obtain rfl := sequence_eq_of_forget hinner hsecond
          obtain rfl : recorded' = recorded := hbase
          rfl

/-- A closed declaration is not changed any more. -/
theorem Records.eq_of_isClosed (hrecords : before.Records find after) (hclosed : before.IsClosed) :
    after = before := by
  refine eq_of_forget hrecords.forget_eq ?_ ?_
  · have hrecorded := hclosed.elements
    have helements := hrecords.elements
    generalize before.declaredElements = elements at hrecorded helements
    generalize after.declaredElements = changed at helements
    induction helements with
    | nil => rfl
    | cons hhead _ ih =>
      rw [List.forall_mem_cons] at hrecorded
      rw [hhead.eq_of_isRecorded hrecorded.1, ih hrecorded.2]
  · cases hbefore : before.recordedBase? with
    | some base => exact hrecords.kept base hbefore
    | none =>
      have hplain : before.derivation? = none := by
        by_contra hderived
        exact hclosed.base hderived hbefore
      cases hafter : after.recordedBase? with
      | none => rfl
      | some base =>
        have hnamed := hrecords.named base hbefore hafter
        rw [Declaration.base?, hplain] at hnamed
        cases hnamed

/-- Where nothing remains to be done all references have been recorded, if a base has been recorded
only after the elements. -/
theorem isClosed_prepare (hprepare : declaration.prepare registry parent = (prepared, .nothing))
    (hcomplete : declaration.recordedBase? ≠ none →
      ∀ element ∈ declaration.declaredElements, element.IsRecorded) : prepared.IsClosed := by
  refine ⟨isRecorded_prepare hprepare rfl hcomplete, fun hderived => ?_⟩
  cases declaration with
  | builtin => cases hprepare; exact absurd rfl hderived
  | simple => cases hprepare; exact absurd rfl hderived
  | complex type =>
    rw [prepare, ComplexType.prepare] at hprepare
    generalize resolveSequence registry type.sequence = result at hprepare
    rcases result with ⟨own, _ | fault⟩
    · cases hcontent : type.content with
      | none =>
        simp only [hcontent, Prod.mk.injEq, and_true] at hprepare
        rw [← hprepare] at hderived
        exact absurd rfl hderived
      | some derivation =>
        simp only [hcontent, Prod.mk.injEq] at hprepare
        obtain ⟨rfl, hnothing⟩ := hprepare
        obtain ⟨sequence, _, hprepared⟩ := derivation.prepare_eq registry parent
        have hrecorded := derivation.resolvedBase_of_prepare hnothing
        simpa [recordedBase?, derivation?, complexType?, hprepared] using hrecorded
    · cases hprepare

/-- A declaration of which all elements are dealt with is closed once its base is recorded. -/
theorem isClosed_recordBase {base : TypeId}
    (hrecorded : ∀ element ∈ declaration.declaredElements, element.IsRecorded) :
    (declaration.recordBase base).IsClosed := by
  constructor
  · rw [recordBase_eq_annotate, declaredElements_annotate, List.map_id']
    exact hrecorded
  · intro hderived
    rw [recordedBase?_recordBase]
    rw [recordBase_eq_annotate, derivation?_annotate] at hderived
    simpa using hderived

end Declaration

/-! ### Passes without a fault -/

/-- As long as nothing has failed all types that the run has resolved are closed. -/
def Run.Closes (run : Run) : Prop :=
  run.failed = [] → ∀ id ∈ run.completed, ∀ declaration,
    run.registry.get? id = some declaration → declaration.IsClosed

section Runs

variable {parent : Option Element} {run after : Run} {id base : TypeId} {fault : Option Fault}
  {declaration prepared : Declaration} {remainder : Remainder}

/-- What is closed stays as it is while references are recorded. -/
theorem Registry.Records.get?_eq_of_isClosed {before after : Registry}
    (hrecords : Records find before after) (hget : before.get? id = some declaration)
    (hclosed : declaration.IsClosed) : after.get? id = some declaration := by
  obtain ⟨changed, hchanged, hsame⟩ := hrecords.types id declaration hget
  rw [hchanged, hsame.eq_of_isClosed hclosed]

/-- Recording references keeps the types closed that a run has resolved. -/
theorem Run.Closes.of_records (hcloses : run.Closes)
    (hrecords : Registry.Records find run.registry after.registry)
    (hsame : after.registry.forget = run.registry.forget)
    (hfailed : after.failed = run.failed) (hcompleted : after.completed = run.completed) :
    after.Closes := by
  intro hnone id hmem found hfound
  rw [hfailed] at hnone
  rw [hcompleted] at hmem
  have hforget := Registry.get?_forget_eq_of_forget hsame id
  rw [hfound, Option.map_some] at hforget
  obtain ⟨declaration, hget, -⟩ := Option.map_eq_some_iff.mp hforget.symm
  have hclosed := hcloses hnone id hmem declaration hget
  rw [hrecords.get?_eq_of_isClosed hget hclosed, Option.some.injEq] at hfound
  exact hfound ▸ hclosed

/-- A type may be resolved once it is closed. -/
theorem Run.Closes.complete (hcloses : run.Closes)
    (hclosed : run.failed = [] → ∀ declaration, run.registry.get? id = some declaration →
      declaration.IsClosed) : (run.complete id).Closes := by
  intro hnone other hmem found hfound
  rcases List.mem_cons.mp hmem with rfl | hmem
  · exact hclosed hnone found hfound
  · exact hcloses hnone other hmem found hfound

theorem Run.closes_fail : (run.fail id).Closes := by
  intro hnone
  cases hnone

namespace Visit

theorem closes_enter (hcloses : run.Closes) (hopens : run.Opens id declaration)
    (hprepare : declaration.prepare run.registry parent = (prepared, remainder)) :
    (run.enter id prepared).Closes :=
  hcloses.of_records (records_enter hopens hprepare)
    (Registry.forget_replace hopens.get? (Run.Opens.forget_prepared hprepare)) rfl rfl

/-- **A visit closes the types that it resolves** as long as nothing has failed. -/
theorem closes (hvisit : Visit parent run id after fault) (hindexed : run.registry.Indexed)
    (hcoherent : run.registry.Coherent) (hcloses : run.Closes) : after.Closes := by
  induction hvisit with
  | settled => exact hcloses
  | missing => exact hcloses
  | circular => exact hcloses
  | @plain run id declaration prepared hopens hprepare =>
    refine (closes_enter hcloses hopens hprepare).complete fun _ found hfound => ?_
    have hself : (run.enter id prepared).registry.get? id = some prepared :=
      Registry.get?_replace_self hopens.get?
    rw [hself, Option.some.injEq] at hfound
    exact hfound ▸ Declaration.isClosed_prepare hprepare
      (hcoherent id declaration hopens.get?).complete
  | faulty => exact Run.closes_fail
  | stuck => exact Run.closes_fail
  | @derived run after id base declaration prepared hopens hprepare hbase ih =>
    have hsame := Registry.forget_replace hopens.get? (Run.Opens.forget_prepared hprepare)
    have hafter := ih (hindexed.of_forget hsame) (coherent_enter hindexed hcoherent hopens hprepare)
      (closes_enter hcloses hopens hprepare)
    have hrecord : (after.recordBase id base).Closes :=
      hafter.of_records (records_recordBase hopens hprepare hbase) Run.forget_recordBase
        Run.failed_recordBase Run.completed_recordBase
    refine hrecord.complete fun hnone found hfound => ?_
    -- The base has not failed, so that it is recorded.
    rw [Run.failed_recordBase] at hnone
    have hkeeps : after.hasFailed base = false := by simp [Run.hasFailed, hnone]
    rw [Run.recordBase, hkeeps, if_neg Bool.false_ne_true, Registry.get?_recordBase_self,
      get?_prepared hopens hbase, Option.map_some, Option.some.injEq] at hfound
    rw [← hfound]
    exact Declaration.isClosed_recordBase
      (Declaration.isRecorded_prepare hprepare rfl (hcoherent id declaration hopens.get?).complete)

end Visit

end Runs

namespace Registry

variable {start later : Registry} {allowed : Operation → Prop} {id : TypeId}
  {declaration : Declaration} {failFast : Bool} {config : Config} {schema : Schema}

/-- All registered types are closed. -/
def Closed (registry : Registry) : Prop :=
  ∀ id declaration, registry.get? id = some declaration → declaration.IsClosed

/-- A pass without a fault closes all types. -/
theorem closed_lastRun (hindexed : registry.Indexed) (hcoherent : registry.Coherent)
    (hnil : (registry.resolveAll failFast).faults = []) :
    (registry.lastRun failFast).registry.Closed := by
  obtain ⟨hfailed, hcompleted⟩ := (Run.resting_start.visitAll_eq_nil_iff hindexed rfl
    fun id hid => mem_ids_iff.mp hid).2 hnil
  have hrun : (registry.lastRun failFast).registry.Indexed ∧
      (registry.lastRun failFast).registry.Coherent ∧ (registry.lastRun failFast).Closes := by
    refine Run.visitAll_induction
      (motive := fun run => run.registry.Indexed ∧ run.registry.Coherent ∧ run.Closes)
      (fun run hbefore id _ => ?_) ⟨hindexed, hcoherent, fun _ id hid => by cases hid⟩
    obtain ⟨hindexed, hcoherent, hcloses⟩ := hbefore
    have hvisit := run.visit_spec none id
    exact ⟨hindexed.of_forget hvisit.forget_eq, hvisit.coherent hindexed hcoherent,
      hvisit.closes hindexed hcoherent hcloses⟩
  intro id declaration hget
  have hbefore : id ∈ registry.ids := by
    rw [mem_ids_iff, get?_ne_none_iff, ← size_eq_of_forget (forget_lastRun registry failFast)]
    exact lt_size_of_get? hget
  exact hrun.2.2 hfailed id ((hcompleted id).mpr (.inr ⟨id, hbefore, .refl⟩)) declaration hget

/-! ### Registries that go on -/

/-- The other registry has the types of the first one under the same ids and names. -/
structure Keeps (registry other : Registry) : Prop where
  /-- Types keep their names. -/
  names : ∀ id name, registry.nameOf? id = some name → other.nameOf? id = some name
  /-- Types keep their declarations, and what is recorded in them. -/
  types : ∀ id declaration, registry.get? id = some declaration →
    other.get? id = some declaration

/-- Closed types stay as they are in any history. -/
theorem Closed.keeps (hclosed : registry.Closed) (hbecomes : registry.Becomes allowed later) :
    registry.Keeps later := by
  induction hbecomes with
  | refl => exact ⟨fun _ _ hname => hname, fun _ _ hget => hget⟩
  | tail _ hstep ih =>
    refine ⟨fun id name hname => hstep.records.names id name (ih.names id name hname), ?_⟩
    intro id declaration hget
    exact hstep.records.get?_eq_of_isClosed (ih.types id declaration hget)
      (hclosed id declaration hget)

namespace Keeps

variable {passed : TypeId} (hkeeps : registry.Keeps later)

include hkeeps

theorem entries_eq {index : Nat} {entry : Entry} (hentry : registry.entries[index]? = some entry) :
    later.entries[index]? = some entry := by
  have hname := hkeeps.names ⟨index⟩ entry.name (by rw [nameOf?, hentry, Option.map_some])
  have htype := hkeeps.types ⟨index⟩ entry.declaration (by rw [get?, hentry, Option.map_some])
  obtain ⟨found, hfound, hname⟩ := Option.map_eq_some_iff.mp hname
  obtain ⟨_, hsame, htype⟩ := Option.map_eq_some_iff.mp htype
  rw [hfound, Option.some.injEq] at hsame
  subst hsame
  rw [hfound]
  cases found
  cases entry
  simp_all

/-- The types of the first registry come first, in the same order. -/
theorem prefixOf_types : registry.types <+: later.types := by
  rw [List.prefix_iff_getElem?]
  intro index hindex
  have hfirst := getElem?_types.mp (List.getElem?_eq_getElem hindex)
  exact getElem?_types.mpr ⟨hfirst.1, hkeeps.entries_eq hfirst.2⟩

theorem recordedBase?_eq (hget : registry.get? id ≠ none) :
    later.recordedBase? id = registry.recordedBase? id := by
  obtain ⟨declaration, hdeclaration⟩ := Option.ne_none_iff_exists'.mp hget
  rw [recordedBase?, recordedBase?, hdeclaration, hkeeps.types id declaration hdeclaration]

variable (hcoherent : registry.Coherent)

include hcoherent

/-- The recorded bases of types of the first registry are types of the first registry. -/
theorem reaches (hget : registry.get? id ≠ none)
    (hreach : Reaches later.recordedBase? id passed) :
    registry.get? passed ≠ none ∧ Reaches registry.recordedBase? id passed := by
  induction hreach with
  | refl => exact ⟨hget, .refl⟩
  | @tail passed base _ hbase ih =>
    obtain ⟨hpassed, hreach⟩ := ih
    rw [Leads, hkeeps.recordedBase?_eq hpassed] at hbase
    obtain ⟨declaration, hdeclaration, hrecorded⟩ := Option.bind_eq_some_iff.mp hbase
    have hlt := (hcoherent passed declaration hdeclaration).base base hrecorded
    exact ⟨get?_ne_none_iff.mpr hlt, hreach.tail hbase⟩

/-- The recorded path of a type stays as it is. -/
theorem recordedPath_eq (hget : registry.get? id ≠ none) :
    later.recordedPath id = registry.recordedPath id := by
  refine (path_congr fun passed hreach => ?_).symm
  exact (hkeeps.recordedBase?_eq (hkeeps.reaches hcoherent hget hreach).1).symm

/-- Where no recorded bases loop, the chain of a type does not loop afterwards. -/
theorem chainEnds (hloops : ∀ id, ¬Loops registry.recordedBase? id)
    (hget : registry.get? id = some declaration) : later.ChainEnds declaration := by
  intro base hbase passed hreach hloop
  have hregistered : registry.get? base ≠ none :=
    get?_ne_none_iff.mpr ((hcoherent id declaration hget).base base hbase)
  obtain ⟨hpassed, -⟩ := hkeeps.reaches hcoherent hregistered hreach
  refine hloops passed (hloop.congr fun current next hcurrent hnext => ?_)
  rwa [hkeeps.recordedBase?_eq (hkeeps.reaches hcoherent hpassed hcurrent).1] at hnext

theorem lineage_eq (hget : registry.get? id = some declaration) :
    later.lineage declaration = registry.lineage declaration := by
  rw [lineage, lineage, ancestors, ancestors]
  cases hbase : declaration.recordedBase? with
  | none => rfl
  | some base =>
    have hregistered : registry.get? base ≠ none :=
      get?_ne_none_iff.mpr ((hcoherent id declaration hget).base base hbase)
    dsimp only
    rw [hkeeps.recordedPath_eq hcoherent hregistered]
    refine congrArg _ (List.filterMap_congr fun passed hpassed => ?_)
    rw [← hkeeps.recordedPath_eq hcoherent hregistered] at hpassed
    have hreach := hkeeps.reaches hcoherent hregistered (reaches_of_mem_path hpassed)
    obtain ⟨found, hfound⟩ := Option.ne_none_iff_exists'.mp hreach.1
    rw [hfound, hkeeps.types passed found hfound]

theorem members_eq (hget : registry.get? id = some declaration) :
    later.members declaration = registry.members declaration := by
  rw [members, members, hkeeps.lineage_eq hcoherent hget]

theorem baseChain_eq (hget : registry.get? id ≠ none) :
    later.baseChain id = registry.baseChain id := by
  rw [baseChain, baseChain, hkeeps.recordedPath_eq hcoherent hget]

/-- What a type is compiled to stays as it is. -/
theorem compileEntry?_eq {entry : Entry} (hget : registry.get? id = some entry.declaration) :
    Schema.compileEntry? later id entry = Schema.compileEntry? registry id entry := by
  unfold Schema.compileEntry?
  rw [hkeeps.members_eq hcoherent hget,
    hkeeps.baseChain_eq hcoherent (by rw [hget]; exact Option.some_ne_none _)]

/-- The schema of the first registry comes first, in the same order. -/
theorem prefixOf_schema :
    (Schema.ofRegistry registry).types <+: (Schema.ofRegistry later).types := by
  have hsame : (Schema.ofRegistry registry).types =
      registry.types.filterMap fun listed => Schema.compileEntry? later listed.1 listed.2 := by
    rw [Schema.ofRegistry, Schema.types_ofTypes]
    refine List.filterMap_congr fun listed hmem => ?_
    obtain ⟨index, hindex⟩ := List.mem_iff_getElem?.mp hmem
    obtain ⟨hid, hentry⟩ := getElem?_types.mp hindex
    refine (hkeeps.compileEntry?_eq hcoherent ?_).symm
    rw [hid, get?, hentry, Option.map_some]
  rw [hsame, Schema.ofRegistry, Schema.types_ofTypes]
  exact hkeeps.prefixOf_types.filterMap _

end Keeps

/-! ### Final schemas -/

/-- The registry has the type under its id and name, a query on it comes to an end, and it gives the
members and the bases of the type. -/
structure Offers (registry : Registry) (type : CompiledType) : Prop where
  /-- The type has its name. -/
  name : registry.nameOf? type.id = some type.name
  /-- The type has its members. -/
  members : ∃ declaration, registry.get? type.id = some declaration ∧
    registry.ChainEnds declaration ∧ registry.members declaration = type.toMembers
  /-- The type has its bases. -/
  baseChain : registry.baseChain type.id = type.baseChain

/-- What a registry keeps of another one it offers as the other one does. -/
theorem Keeps.offers (hkeeps : registry.Keeps later) (hcoherent : registry.Coherent)
    (hloops : ∀ id, ¬Loops registry.recordedBase? id) {type : CompiledType}
    (hmem : type ∈ (Schema.ofRegistry registry).types) : later.Offers type := by
  obtain ⟨complex, hget, hname, hmembers, hchain⟩ := mem_ofRegistry_iff.mp hmem
  have hregistered : registry.get? type.id ≠ none := by
    rw [hget]
    exact Option.some_ne_none _
  refine ⟨hkeeps.names _ _ hname, ⟨_, hkeeps.types _ _ hget, ?_, ?_⟩, ?_⟩
  · exact hkeeps.chainEnds hcoherent hloops hget
  · rw [hkeeps.members_eq hcoherent hget, hmembers]
  · rw [hkeeps.baseChain_eq hcoherent hregistered, hchain]

/-- A schema that goes on gives the same type for every local name that it knew. -/
theorem Schema.get?_eq_of_prefixOf {schema other : Schema} {localPart : String}
    (hstarts : schema.types <+: other.types) (hknown : schema.get? localPart ≠ none) :
    other.get? localPart = schema.get? localPart := by
  obtain ⟨rest, hrest⟩ := hstarts
  obtain ⟨type, htype⟩ := Option.ne_none_iff_exists'.mp hknown
  rw [htype, Schema.get?_eq_find?, ← hrest, List.find?_append, ← Schema.get?_eq_find?, htype,
    Option.some_or]

/-- **A schema is final.** After a history that leaves no loop of recorded bases and ends with a
compilation that gives a schema, whatever happens to the registry leaves the types of the schema
with their members and bases, and every later schema has the same types under the same local
names. -/
theorem Becomes.schema_final (hnever : start.NeverCompiled)
    (hbecomes : start.Becomes (·.isPlain) registry)
    (hok : (registry.compile config).2 = .ok schema)
    (hloops : ∀ id, ¬Loops (registry.compile config).1.recordedBase? id)
    (hlater : (registry.compile config).1.Becomes (fun _ => True) later) :
    (∀ type ∈ schema.types, later.Offers type) ∧
      ∀ config' schema', (later.compile config').2 = .ok schema' →
        (∀ type ∈ schema.types, type ∈ schema'.types) ∧
          ∀ localPart, schema.get? localPart ≠ none →
            schema'.get? localPart = schema.get? localPart := by
  obtain ⟨hnil, rfl⟩ := compile_eq_ok_iff.mp hok
  obtain ⟨hindexed, hcoherent⟩ := hbecomes.coherent hnever
  have hdone : (registry.compile config).1.Coherent :=
    (Becomes.coherent (hbecomes.compile rfl) hnever).2
  have hclosed : (registry.compile config).1.Closed := by
    rw [fst_compile]
    exact closed_lastRun hindexed hcoherent hnil
  constructor
  · intro type hmem
    exact (hclosed.keeps hlater).offers hdone hloops hmem
  · intro config' schema' hok'
    obtain ⟨-, rfl⟩ := compile_eq_ok_iff.mp hok'
    have hkeeps : (registry.compile config).1.Keeps (later.compile config').1 :=
      hclosed.keeps (hlater.compile trivial)
    have hstarts := hkeeps.prefixOf_schema hdone
    exact ⟨fun type hmem => hstarts.subset hmem,
      fun localPart hknown => Schema.get?_eq_of_prefixOf hstarts hknown⟩

/-- A type and one that extends it. -/
def baseAndLeaf : Registry :=
  empty.replay
    [.register (.extending "Leaf" "Base" none),
      .register (.complex { ComplexType.ofSequence [.named "part"] with name := "Base" })]

/-- After it has been compiled the target namespace changes, and there the base is declared anew. -/
def withNewBase : Registry :=
  (baseAndLeaf.compile .standard).1.replay
    [.setTarget "urn:new", .register (.complex { ComplexType.ofSequence [] with name := "Base" }),
      .compile ⟨[], false⟩]

/-- The new base changes neither the type that extends the old one nor what its name gives. -/
theorem schema_final_withNewBase :
    ∃ schema later, (baseAndLeaf.compile .standard).2 = .ok schema ∧
      (withNewBase.compile .standard).2 = .ok later ∧
      schema.types.map (·.elements.length) = [1, 1] ∧
      later.types.map (·.elements.length) = [1, 1, 0] ∧
      (∀ type ∈ schema.types, withNewBase.Offers type) ∧
      (∀ type ∈ schema.types, type ∈ later.types) ∧
      ∀ localPart, schema.get? localPart ≠ none →
        later.get? localPart = schema.get? localPart := by
  have hok : (baseAndLeaf.compile .standard).2 =
      .ok (Schema.ofRegistry (baseAndLeaf.compile .standard).1) :=
    compile_eq_ok_iff.mpr ⟨by decide +kernel, rfl⟩
  have hlater : (withNewBase.compile .standard).2 =
      .ok (Schema.ofRegistry (withNewBase.compile .standard).1) :=
    compile_eq_ok_iff.mpr ⟨by decide +kernel, rfl⟩
  have hbecomes : empty.Becomes (·.isPlain) baseAndLeaf := by
    unfold baseAndLeaf
    exact becomes_replay (by decide +kernel)
  have hnever : baseAndLeaf.NeverCompiled := neverCompiled_empty.replay (by decide +kernel)
  have hloops : ∀ id, ¬Loops (baseAndLeaf.replay [.compile .standard]).recordedBase? id :=
    hnever.not_loops_replay (by decide)
  have hgoes : (baseAndLeaf.compile .standard).1.Becomes (fun _ => True) withNewBase := by
    unfold withNewBase
    exact becomes_replay fun _ _ => trivial
  obtain ⟨hoffers, hfinal⟩ :=
    Becomes.schema_final neverCompiled_empty hbecomes hok hloops hgoes
  obtain ⟨hkept, hnamed⟩ := hfinal .standard _ hlater
  exact ⟨_, _, hok, hlater, by decide +kernel, by decide +kernel, hoffers, hkept, hnamed⟩

end Registry

end XsdDerivation
