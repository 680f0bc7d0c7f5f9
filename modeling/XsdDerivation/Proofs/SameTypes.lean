import Mathlib.Data.List.Nodup
import Mathlib.Data.List.Perm.Subperm
import XsdDerivation.Proofs.Renaming
import XsdDerivation.Proofs.WriteOnce

/-!
# Registries with the same types

The index of a registry that is only ever filled is exact: every type has one name, and the name
stands for the type. If two such registries declare the same types under the same names, in
whatever order, one is the other with its ids renamed.
-/

namespace XsdDerivation

/-! ### Exact indices -/

namespace Registry

variable {registry other : Registry} {id : TypeId} {name added : QualifiedName}
  {declaration : Declaration}

/-- Names stand for the types that have them, and no two types have one name. -/
def IndexExact (registry : Registry) : Prop :=
  ∀ name id, registry.find? name = some id ↔ registry.nameOf? id = some name

/-- The declaration of the type with this name. -/
def declared? (registry : Registry) (name : QualifiedName) : Option Declaration :=
  (registry.find? name).bind registry.get?

/-- The registry with one more type, unless the name is taken. -/
def addNew (registry : Registry) (name : QualifiedName) (declaration : Declaration) : Registry :=
  if registry.contains name then registry else registry.append name declaration

theorem registerAs_eq_addNew (registry : Registry) (name : QualifiedName)
    (declaration : Declaration) :
    ((registry.registerAs name declaration).toOption.map Prod.snd).getD registry =
      registry.addNew name declaration := by
  unfold registerAs addNew
  split <;> rfl

/-- A name is taken exactly if it stands for a type. -/
theorem contains_iff : registry.contains name = true ↔ registry.find? name ≠ none := by
  rw [contains, find?, Std.TreeMap.contains_eq_isSome_getElem?]
  exact Option.isSome_iff_ne_none

theorem addNew_of_some (hfind : registry.find? name = some id) (declaration : Declaration) :
    registry.addNew name declaration = registry :=
  if_pos (contains_iff.mpr (by rw [hfind]; exact Option.some_ne_none id))

theorem addNew_of_none (hfind : registry.find? name = none) (declaration : Declaration) :
    registry.addNew name declaration = registry.append name declaration :=
  if_neg fun htaken => contains_iff.mp htaken hfind

theorem indexExact_empty : empty.IndexExact := by
  intro name id
  have hfind : empty.find? name = none := Std.TreeMap.getElem?_emptyc
  rw [hfind, nameOf?, empty]
  simp

namespace IndexExact

variable (hexact : registry.IndexExact)

include hexact

theorem indexed : registry.Indexed :=
  fun name id hfind => lt_size_of_nameOf? ((hexact name id).mp hfind)

/-- No two types have one name. -/
theorem eq_of_nameOf? {id' : TypeId} (hid : registry.nameOf? id = some name)
    (hid' : registry.nameOf? id' = some name) : id = id' := by
  rw [← hexact] at hid hid'
  exact Option.some.inj (hid.symm.trans hid')

/-- A name stands for no type exactly if nothing is declared under it. -/
theorem declared?_eq_none_iff : registry.declared? name = none ↔ registry.find? name = none := by
  rw [declared?, Option.bind_eq_none_iff]
  constructor
  · intro hnone
    by_contra hfound
    obtain ⟨id, hid⟩ := Option.ne_none_iff_exists'.mp hfound
    exact get?_ne_none_iff.mpr (hexact.indexed name id hid) (hnone id hid)
  · intro hnone id hid
    rw [hnone] at hid
    cases hid

/-- Adding a type under a name that is not taken leaves the index exact. -/
theorem append (hnone : registry.find? name = none) (declaration : Declaration) :
    (registry.append name declaration).IndexExact := by
  intro other id
  rw [find?_append, nameOf?_append]
  by_cases hsame : name = other
  · subst hsame
    rw [if_pos rfl]
    constructor
    · intro hid
      rw [← Option.some.inj hid, if_pos rfl]
    · intro hname
      split at hname
      · rename_i hlast
        rw [← hlast]
      · rw [← hexact, hnone] at hname
        cases hname
  · rw [if_neg hsame, hexact]
    constructor
    · intro hname
      rw [if_neg (Nat.ne_of_lt (lt_size_of_nameOf? hname)), hname]
    · intro hname
      split at hname
      · exact absurd (Option.some.inj hname) hsame
      · exact hname

/-- Registering a type leaves the index exact. -/
theorem addNew (name : QualifiedName) (declaration : Declaration) :
    (registry.addNew name declaration).IndexExact := by
  cases hfind : registry.find? name with
  | some id =>
    rw [addNew_of_some hfind]
    exact hexact
  | none =>
    rw [addNew_of_none hfind]
    exact hexact.append hfind declaration

theorem declared?_append (added : QualifiedName) (declaration : Declaration)
    (name : QualifiedName) :
    (registry.append added declaration).declared? name =
      if added = name then some declaration else registry.declared? name := by
  rw [declared?, find?_append]
  split
  · rw [Option.bind_some, get?_append, if_pos rfl]
  · cases hfind : registry.find? name with
    | none => rw [declared?, hfind, Option.bind_none, Option.bind_none]
    | some id =>
      rw [declared?, hfind, Option.bind_some, Option.bind_some, get?_append,
        if_neg (Nat.ne_of_lt (hexact.indexed name id hfind))]

/-- What is declared under a name once a type has been registered. -/
theorem declared?_addNew (added : QualifiedName) (declaration : Declaration)
    (name : QualifiedName) :
    (registry.addNew added declaration).declared? name =
      if added = name then some ((registry.declared? added).getD declaration)
      else registry.declared? name := by
  cases hfind : registry.find? added with
  | some id =>
    have hsome : registry.declared? added ≠ none :=
      hexact.declared?_eq_none_iff.not.mpr (by rw [hfind]; exact Option.some_ne_none id)
    obtain ⟨found, hfound⟩ := Option.ne_none_iff_exists'.mp hsome
    rw [addNew_of_some hfind]
    split
    · rename_i hsame
      rw [← hsame, hfound, Option.getD_some]
    · rfl
  | none =>
    rw [addNew_of_none hfind, hexact.declared?_append, hexact.declared?_eq_none_iff.mpr hfind,
      Option.getD_none]

end IndexExact

end Registry

/-! ### The same types in another order -/

namespace Operation

/-- Whether the operation changes what references name only, or fills the registry with types in
which nothing is recorded. -/
def declares : Operation → Bool
  | setTarget _ => true
  | operation => operation.fills

/-- Whether the operation changes what references name only, or fills the registry with any
types. -/
def edits : Operation → Bool
  | setTarget _ | bind _ _ | register _ | registerAs _ _ | registerBuiltins => true
  | _ => false

theorem edits_of_declares {operation : Operation} (hdeclares : operation.declares = true) :
    operation.edits = true := by
  cases operation with
  | setTarget | bind | register | registerAs | registerBuiltins => rfl
  | _ => cases hdeclares

end Operation

namespace Registry

variable {registry other : Registry}

/-- The registries declare the same types under the same names and resolve references to the same
names. Ids may differ. -/
structure SameTypes (registry other : Registry) : Prop where
  /-- Prefixes are bound to the same namespaces. -/
  namespaceOf?_eq : ∀ qualifier, other.namespaceOf? qualifier = registry.namespaceOf? qualifier
  /-- The target namespaces are the same. -/
  target_eq : other.targetNamespace = registry.targetNamespace
  /-- Names stand for the same declarations. -/
  declared?_eq : ∀ name, other.declared? name = registry.declared? name

theorem SameTypes.refl (registry : Registry) : registry.SameTypes registry :=
  ⟨fun _ => rfl, rfl, fun _ => rfl⟩

theorem SameTypes.symm (hsame : registry.SameTypes other) : other.SameTypes registry :=
  ⟨fun qualifier => (hsame.namespaceOf?_eq qualifier).symm, hsame.target_eq.symm,
    fun name => (hsame.declared?_eq name).symm⟩

theorem SameTypes.trans {third : Registry} (hfirst : registry.SameTypes other)
    (hsecond : other.SameTypes third) : registry.SameTypes third :=
  ⟨fun qualifier => (hsecond.namespaceOf?_eq qualifier).trans (hfirst.namespaceOf?_eq qualifier),
    hsecond.target_eq.trans hfirst.target_eq,
    fun name => (hsecond.declared?_eq name).trans (hfirst.declared?_eq name)⟩

theorem namespaceOf?_addNew (name : QualifiedName) (declaration : Declaration)
    (qualifier : String) :
    (registry.addNew name declaration).namespaceOf? qualifier =
      registry.namespaceOf? qualifier := by
  unfold addNew
  split <;> rfl

theorem targetNamespace_addNew (name : QualifiedName) (declaration : Declaration) :
    (registry.addNew name declaration).targetNamespace = registry.targetNamespace := by
  unfold addNew
  split <;> rfl

/-- Registering one more type in both leaves the types the same. -/
theorem SameTypes.addNew (hsame : registry.SameTypes other) (hexact : registry.IndexExact)
    (hexact' : other.IndexExact) (name : QualifiedName) (declaration : Declaration) :
    (registry.addNew name declaration).SameTypes (other.addNew name declaration) where
  namespaceOf?_eq qualifier := by
    rw [namespaceOf?_addNew, namespaceOf?_addNew, hsame.namespaceOf?_eq]
  target_eq := by rw [targetNamespace_addNew, targetNamespace_addNew, hsame.target_eq]
  declared?_eq name := by
    rw [hexact.declared?_addNew, hexact'.declared?_addNew, hsame.declared?_eq, hsame.declared?_eq]

/-- Types with different names may be registered in either order. -/
theorem sameTypes_addNew_addNew (hexact : registry.IndexExact) {name name' : QualifiedName}
    (hdiffer : name ≠ name') (declaration declaration' : Declaration) :
    ((registry.addNew name declaration).addNew name' declaration').SameTypes
      ((registry.addNew name' declaration').addNew name declaration) where
  namespaceOf?_eq qualifier := by simp only [namespaceOf?_addNew]
  target_eq := by simp only [targetNamespace_addNew]
  declared?_eq other := by
    rw [(hexact.addNew _ _).declared?_addNew, (hexact.addNew _ _).declared?_addNew,
      hexact.declared?_addNew, hexact.declared?_addNew, hexact.declared?_addNew,
      hexact.declared?_addNew]
    grind

/-- What a prefix is bound to once another binding has been granted or refused. -/
theorem namespaceOf?_bind (qualifier space used : String) :
    ((registry.bind qualifier space).toOption.getD registry).namespaceOf? used =
      if qualifier = used then some ((registry.namespaceOf? qualifier).getD space)
      else registry.namespaceOf? used := by
  unfold bind
  cases hbound : registry.namespaceOf? qualifier with
  | none => simp [Except.toOption, namespaceOf?, Std.TreeMap.getElem?_insert]
  | some existing =>
    dsimp only
    by_cases hused : qualifier = used
    · subst hused
      split <;> simp [Except.toOption, hbound]
    · rw [if_neg hused]
      split <;> rfl

/-- Whether the index is exact is a matter of types and names alone. -/
theorem IndexExact.with_bindings (hexact : registry.IndexExact)
    (bindings : Std.TreeMap String String) (space : String) :
    ({ registry with bindings, targetNamespace := space } : Registry).IndexExact := hexact

theorem indexExact_bind (hexact : registry.IndexExact) (qualifier space : String) :
    ((registry.bind qualifier space).toOption.getD registry).IndexExact := by
  unfold bind
  split
  · exact hexact
  · split <;> exact hexact

theorem declared?_bind (qualifier space : String) (name : QualifiedName) :
    ((registry.bind qualifier space).toOption.getD registry).declared? name =
      registry.declared? name := by
  unfold bind
  split
  · rfl
  · split <;> rfl

theorem targetNamespace_bind (qualifier space : String) :
    ((registry.bind qualifier space).toOption.getD registry).targetNamespace =
      registry.targetNamespace := by
  unfold bind
  split
  · rfl
  · split <;> rfl

/-- The registry with types registered one after another, as far as their names are not taken. -/
def addEach (registry : Registry) (types : List Entry) : Registry :=
  types.foldl (fun registry entry => registry.addNew entry.name entry.declaration) registry

theorem addEach_cons (entry : Entry) (types : List Entry) :
    registry.addEach (entry :: types) =
      (registry.addNew entry.name entry.declaration).addEach types := rfl

theorem registerBuiltins_eq_addEach (registry : Registry) :
    registry.registerBuiltins = registry.addEach
      (Builtin.all.map fun type => ⟨⟨xsdNamespace, type.localPart⟩, .builtin type⟩) := by
  rw [addEach, List.foldl_map]
  rfl

theorem IndexExact.addEach (hexact : registry.IndexExact) (types : List Entry) :
    (registry.addEach types).IndexExact := by
  induction types generalizing registry with
  | nil => exact hexact
  | cons entry types ih => exact ih (hexact.addNew _ _)

theorem SameTypes.addEach (hsame : registry.SameTypes other) (hexact : registry.IndexExact)
    (hexact' : other.IndexExact) (types : List Entry) :
    (registry.addEach types).SameTypes (other.addEach types) := by
  induction types generalizing registry other with
  | nil => exact hsame
  | cons entry types ih =>
    exact ih (hsame.addNew hexact hexact' _ _) (hexact.addNew _ _) (hexact'.addNew _ _)

/-- **Registering types in another order** gives the same types, if no two have one name. -/
theorem sameTypes_addEach_of_perm {types types' : List Entry} (hperm : types.Perm types')
    (hnames : (types.map (·.name)).Nodup) (hexact : registry.IndexExact) :
    (registry.addEach types).SameTypes (registry.addEach types') := by
  induction hperm generalizing registry with
  | nil => exact .refl registry
  | cons entry _ ih =>
    rw [List.map_cons, List.nodup_cons] at hnames
    exact ih hnames.2 (hexact.addNew _ _)
  | swap first second types =>
    have hdiffer : second.name ≠ first.name := by
      rw [List.map_cons, List.nodup_cons] at hnames
      exact fun heq => hnames.1 (heq ▸ List.mem_map_of_mem (List.mem_cons_self ..))
    exact (sameTypes_addNew_addNew hexact hdiffer _ _).addEach ((hexact.addNew _ _).addNew _ _)
      ((hexact.addNew _ _).addNew _ _) types
  | trans hfirst _ ih ih' =>
    exact (ih hnames hexact).trans (ih' ((hfirst.map _).nodup_iff.mp hnames) hexact)

end Registry

namespace Operation

variable {registry other : Registry} {operation : Operation}

theorem indexExact_apply (hedits : operation.edits = true) (hexact : registry.IndexExact) :
    (operation.apply registry).IndexExact := by
  cases operation with
  | setTarget space => exact hexact.with_bindings registry.bindings space
  | bind qualifier space => exact registry.indexExact_bind hexact qualifier space
  | register declaration =>
    rw [apply, Registry.register, Registry.registerAs_eq_addNew]
    exact hexact.addNew _ _
  | registerAs name declaration =>
    rw [apply, Registry.registerAs_eq_addNew]
    exact hexact.addNew _ _
  | registerBuiltins =>
    rw [apply, Registry.registerBuiltins_eq_addEach]
    exact hexact.addEach _
  | _ => cases hedits

/-- The same operation leaves the types the same. -/
theorem sameTypes_apply (hdeclares : operation.declares = true)
    (hsame : registry.SameTypes other) (hexact : registry.IndexExact)
    (hexact' : other.IndexExact) :
    (operation.apply registry).SameTypes (operation.apply other) := by
  cases operation with
  | setTarget space => exact ⟨hsame.namespaceOf?_eq, rfl, hsame.declared?_eq⟩
  | bind qualifier space =>
    constructor
    · intro used
      rw [apply, apply, Registry.namespaceOf?_bind, Registry.namespaceOf?_bind,
        hsame.namespaceOf?_eq, hsame.namespaceOf?_eq]
    · rw [apply, apply, Registry.targetNamespace_bind, Registry.targetNamespace_bind,
        hsame.target_eq]
    · intro name
      rw [apply, apply, Registry.declared?_bind, Registry.declared?_bind, hsame.declared?_eq]
  | register declaration =>
    rw [apply, apply, Registry.register, Registry.register, Registry.registerAs_eq_addNew,
      Registry.registerAs_eq_addNew, hsame.target_eq]
    exact hsame.addNew hexact hexact' _ _
  | registerAs name declaration =>
    rw [apply, apply, Registry.registerAs_eq_addNew, Registry.registerAs_eq_addNew]
    exact hsame.addNew hexact hexact' _ _
  | registerBuiltins =>
    rw [apply, apply, Registry.registerBuiltins_eq_addEach, Registry.registerBuiltins_eq_addEach]
    exact hsame.addEach hexact hexact' _
  | _ => cases hdeclares

theorem neverCompiled_apply (hdeclares : operation.declares = true)
    (hnever : registry.NeverCompiled) : (operation.apply registry).NeverCompiled := by
  have hfills (hfills : operation.fills = true) : (operation.apply registry).NeverCompiled :=
    hnever.grows (grows_apply hfills registry)
  cases operation with
  | setTarget space => exact hnever.with_bindings registry.bindings space
  | _ => exact hfills hdeclares

end Operation

namespace Registry

variable {registry other : Registry} {history : List Operation}

theorem IndexExact.replay_edits (hexact : registry.IndexExact)
    (hedits : ∀ operation ∈ history, operation.edits = true) :
    (registry.replay history).IndexExact :=
  replay_induction (fun _ hexact operation hmem =>
    operation.indexExact_apply (hedits operation hmem) hexact) hexact

theorem IndexExact.replay (hexact : registry.IndexExact)
    (hdeclares : ∀ operation ∈ history, operation.declares = true) :
    (registry.replay history).IndexExact :=
  hexact.replay_edits fun operation hmem => Operation.edits_of_declares (hdeclares operation hmem)

theorem NeverCompiled.replay_declares (hnever : registry.NeverCompiled)
    (hdeclares : ∀ operation ∈ history, operation.declares = true) :
    (registry.replay history).NeverCompiled :=
  replay_induction (fun _ hnever operation hmem =>
    operation.neverCompiled_apply (hdeclares operation hmem) hnever) hnever

/-- The same history leaves the types the same. -/
theorem SameTypes.replay (hsame : registry.SameTypes other) (hexact : registry.IndexExact)
    (hexact' : other.IndexExact)
    (hdeclares : ∀ operation ∈ history, operation.declares = true) :
    (registry.replay history).SameTypes (other.replay history) := by
  induction history generalizing registry other with
  | nil => exact hsame
  | cons operation history ih =>
    have hfirst := hdeclares operation (List.mem_cons_self ..)
    have hedits := Operation.edits_of_declares hfirst
    exact ih (operation.sameTypes_apply hfirst hsame hexact hexact')
      (operation.indexExact_apply hedits hexact) (operation.indexExact_apply hedits hexact')
      fun other hother => hdeclares other (List.mem_cons_of_mem _ hother)

/-- The index of a registry with the built-in types is exact. -/
theorem indexExact_ofConfig (config : Config) : (ofConfig config).IndexExact := by
  have hbuiltins : empty.registerBuiltins.IndexExact := by
    rw [registerBuiltins_eq_addEach]
    exact indexExact_empty.addEach _
  exact hbuiltins.with_bindings _ _

/-! ### Corresponding ids -/

/-- The names of the registered types, in order. -/
def names (registry : Registry) : List QualifiedName :=
  registry.entries.toList.map (·.name)

theorem getElem?_names (index : Nat) : registry.names[index]? = registry.nameOf? ⟨index⟩ := by
  simp [names, nameOf?]

theorem mem_names_iff {name : QualifiedName} :
    name ∈ registry.names ↔ ∃ id, registry.nameOf? id = some name := by
  rw [List.mem_iff_getElem?]
  constructor
  · rintro ⟨index, hname⟩
    exact ⟨⟨index⟩, (registry.getElem?_names index).symm.trans hname⟩
  · rintro ⟨id, hname⟩
    exact ⟨id.index, (registry.getElem?_names id.index).trans hname⟩

theorem IndexExact.nodup_names (hexact : registry.IndexExact) : registry.names.Nodup := by
  rw [List.nodup_iff_getElem?_ne_getElem?]
  intro first second hlt hsecond heq
  have hname := List.getElem?_eq_getElem hsecond
  rw [← heq, getElem?_names] at hname
  rw [getElem?_names, getElem?_names, hname] at heq
  have hid := congrArg TypeId.index (hexact.eq_of_nameOf? hname heq.symm)
  exact Nat.ne_of_lt hlt hid

/-- The id under which the other registry has the type, or the same id if there is no such type. -/
def correspondingId (registry other : Registry) (id : TypeId) : TypeId :=
  ((registry.nameOf? id).bind other.find?).getD id

theorem correspondingId_of_none {id : TypeId} (hnone : registry.nameOf? id = none) :
    registry.correspondingId other id = id := by
  rw [correspondingId, hnone]
  rfl

namespace SameTypes

variable {id : TypeId} {name : QualifiedName} (hsame : registry.SameTypes other)
  (hexact : registry.IndexExact) (hexact' : other.IndexExact)

include hsame hexact hexact'

/-- A type has a corresponding one of the same name and declaration. -/
theorem exists_corresponding (hname : registry.nameOf? id = some name) :
    other.nameOf? (registry.correspondingId other id) = some name ∧
      other.get? (registry.correspondingId other id) = registry.get? id := by
  have hfind := (hexact name id).mpr hname
  have hfound : other.find? name ≠ none := by
    rw [Ne, ← hexact'.declared?_eq_none_iff, hsame.declared?_eq, hexact.declared?_eq_none_iff,
      hfind]
    exact Option.some_ne_none id
  obtain ⟨id', hid'⟩ := Option.ne_none_iff_exists'.mp hfound
  have hid : registry.correspondingId other id = id' := by
    rw [correspondingId, hname, Option.bind_some, hid', Option.getD_some]
  have hdeclared := hsame.declared?_eq name
  rw [declared?, declared?, hid', hfind, Option.bind_some, Option.bind_some] at hdeclared
  rw [hid]
  exact ⟨(hexact' name id').mp hid', hdeclared⟩

theorem size_le : registry.size ≤ other.size := by
  have hsubset : registry.names ⊆ other.names := by
    intro name hname
    obtain ⟨id, hid⟩ := mem_names_iff.mp hname
    exact mem_names_iff.mpr ⟨_, (hsame.exists_corresponding hexact hexact' hid).1⟩
  have hlength := (hexact.nodup_names.subperm hsubset).length_le
  simpa [names, size] using hlength

theorem size_eq : other.size = registry.size :=
  Nat.le_antisymm (hsame.symm.size_le hexact' hexact) (hsame.size_le hexact hexact')

/-- A name stands for corresponding types. -/
theorem find?_eq (name : QualifiedName) :
    other.find? name = (registry.find? name).map (registry.correspondingId other) := by
  cases hfind : registry.find? name with
  | none =>
    rw [Option.map_none, ← hexact'.declared?_eq_none_iff, hsame.declared?_eq,
      hexact.declared?_eq_none_iff, hfind]
  | some id =>
    rw [Option.map_some, hexact']
    exact (hsame.exists_corresponding hexact hexact' ((hexact name id).mp hfind)).1

/-- Corresponding ids have the same name, or none. -/
theorem nameOf?_eq (id : TypeId) :
    other.nameOf? (registry.correspondingId other id) = registry.nameOf? id := by
  cases hname : registry.nameOf? id with
  | some name => exact (hsame.exists_corresponding hexact hexact' hname).1
  | none =>
    have hout : other.size ≤ id.index := by
      rw [hsame.size_eq hexact hexact']
      simpa [nameOf?, size] using hname
    rw [correspondingId_of_none hname]
    simpa [nameOf?, size] using hout

/-- Corresponding ids have the same declaration, or none. -/
theorem get?_eq (id : TypeId) :
    other.get? (registry.correspondingId other id) = registry.get? id := by
  cases hname : registry.nameOf? id with
  | some name => exact (hsame.exists_corresponding hexact hexact' hname).2
  | none =>
    have hout : registry.size ≤ id.index := by simpa [nameOf?, size] using hname
    have hnone (any : Registry) (hany : any.size = registry.size) : any.get? id = none := by
      by_contra hsome
      exact absurd (get?_ne_none_iff.mp hsome) (by omega)
    rw [correspondingId_of_none hname, hnone other (hsame.size_eq hexact hexact'),
      hnone registry rfl]

/-- Different ids correspond to different ids. -/
theorem correspondingId_injective : Function.Injective (registry.correspondingId other) := by
  intro first second heq
  have hnames : registry.nameOf? first = registry.nameOf? second := by
    rw [← hsame.nameOf?_eq hexact hexact', heq, hsame.nameOf?_eq hexact hexact']
  cases hfirst : registry.nameOf? first with
  | some name => exact hexact.eq_of_nameOf? hfirst (hnames ▸ hfirst)
  | none =>
    rwa [correspondingId_of_none hfirst, correspondingId_of_none (hnames ▸ hfirst)] at heq

/-- **Registries with the same types** are the same but for the ids of the types. -/
theorem renames : Renames (registry.correspondingId other) registry other where
  injective := hsame.correspondingId_injective hexact hexact'
  size_eq := hsame.size_eq hexact hexact'
  get?_eq := hsame.get?_eq hexact hexact'
  nameOf?_eq := hsame.nameOf?_eq hexact hexact'
  find_eq reference := by
    have hresolve : other.resolve? reference = registry.resolve? reference := by
      unfold resolve?
      simp only [hsame.target_eq, hsame.namespaceOf?_eq]
    rw [findReferenced?, findReferenced?, hresolve, Option.map_bind]
    exact congrArg _ (funext fun name => hsame.find?_eq hexact hexact' name)

end SameTypes

end Registry

end XsdDerivation
