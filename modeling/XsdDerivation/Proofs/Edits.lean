import XsdDerivation.Proofs.SameTypes

/-!
# Registries under edits

An edit changes the target namespace, binds a prefix or registers types. Types are only ever added
at the end, under names that are not taken, so that the index and the types of a registry that has
only been edited go on to say the same, and what has been registered or bound stays as it is.
-/

namespace XsdDerivation

/-- A built-in type under its name. -/
def Builtin.entry (type : Builtin) : Entry :=
  ⟨⟨xsdNamespace, type.localPart⟩, .builtin type⟩

namespace Operation

/-- The types that the operation offers to a registry. -/
def offers (registry : Registry) : Operation → List Entry
  | register declaration => [⟨⟨registry.targetNamespace, declaration.name⟩, declaration⟩]
  | registerAs name declaration => [⟨name, declaration⟩]
  | registerBuiltins => Builtin.all.map Builtin.entry
  | _ => []

/-- Why a registry refuses the operation. -/
def refusal? (registry : Registry) : Operation → Option RegistrationFault
  | bind qualifier space => fault? (registry.bind qualifier space)
  | register declaration => fault? (registry.register declaration)
  | registerAs name declaration => fault? (registry.registerAs name declaration)
  | _ => none
where
  /-- The fault, if that is the answer. -/
  fault? {α : Type} : Except RegistrationFault α → Option RegistrationFault
    | .ok _ => none
    | .error fault => some fault

/-- An operation that is refused leaves the registry as it is. -/
theorem apply_of_refusal? {registry : Registry} {operation : Operation}
    (hrefusal : operation.refusal? registry ≠ none) : operation.apply registry = registry := by
  have herror {α : Type} {answer : Except RegistrationFault α}
      (hfault : refusal?.fault? answer ≠ none) : ∃ fault, answer = .error fault := by
    cases answer with
    | ok => exact absurd rfl hfault
    | error fault => exact ⟨fault, rfl⟩
  cases operation with
  | bind | register | registerAs =>
    obtain ⟨fault, hfault⟩ := herror hrefusal
    rw [apply, hfault]
    rfl
  | _ => exact absurd rfl hrefusal

end Operation

namespace Registry

variable {registry middle after : Registry} {name : QualifiedName} {declaration : Declaration}
  {types : List Entry} {operation : Operation} {history : List Operation}

/-- The types of a list whose names are not taken. -/
def missing (registry : Registry) (types : List Entry) : List Entry :=
  types.filter fun entry => !registry.contains entry.name

/-- The types that a history registers, in order. -/
def added (registry : Registry) : List Operation → List Entry
  | [] => []
  | operation :: history =>
    registry.missing (operation.offers registry) ++ (operation.apply registry).added history

/-! ### What is registered -/

theorem entries_append : (registry.append name declaration).entries.toList =
    registry.entries.toList ++ [⟨name, declaration⟩] := by
  simp [append]

theorem contains_append (other : QualifiedName) :
    (registry.append name declaration).contains other =
      (decide (name = other) || registry.contains other) := by
  rw [Bool.eq_iff_iff, Bool.or_eq_true, decide_eq_true_iff, contains_iff, contains_iff,
    find?_append]
  split <;> simp_all

/-- Types registered one after another come at the end, without those whose names are taken. -/
theorem entries_addEach (hnames : (types.map (·.name)).Nodup) :
    (registry.addEach types).entries.toList =
      registry.entries.toList ++ registry.missing types := by
  induction types generalizing registry with
  | nil => exact (List.append_nil _).symm
  | cons entry types ih =>
    rw [List.map_cons, List.nodup_cons] at hnames
    rw [addEach_cons, ih hnames.2, addNew]
    cases htaken : registry.contains entry.name with
    | true => simp [missing, htaken]
    | false =>
      have hkeep : (registry.append entry.name entry.declaration).missing types =
          registry.missing types := by
        refine List.filter_congr fun other hother => ?_
        have hne : entry.name ≠ other.name := fun heq =>
          hnames.1 (heq ▸ List.mem_map_of_mem hother)
        rw [contains_append, decide_eq_false hne, Bool.false_or]
      have hfirst : registry.missing (entry :: types) = entry :: registry.missing types :=
        List.filter_cons_of_pos (by rw [htaken]; rfl)
      rw [if_neg Bool.false_ne_true, hkeep, hfirst, entries_append, List.append_assoc]
      rfl

/-- Nothing happens if all the names are taken. -/
theorem addEach_of_contains (htaken : ∀ entry ∈ types, registry.contains entry.name = true) :
    registry.addEach types = registry := by
  induction types with
  | nil => rfl
  | cons entry types ih =>
    rw [addEach_cons, addNew, if_pos (htaken entry (List.mem_cons_self ..))]
    exact ih fun other hother => htaken other (List.mem_cons_of_mem _ hother)

/-- Registering types one after another takes their names and frees none. -/
theorem contains_addEach
    (hname : registry.contains name = true ∨ ∃ entry ∈ types, entry.name = name) :
    (registry.addEach types).contains name = true := by
  induction types generalizing registry with
  | nil => exact hname.resolve_right (by simp)
  | cons entry types ih =>
    rw [addEach_cons]
    refine ih ?_
    unfold addNew
    split <;> grind [contains_append]

theorem nodup_names_builtins : ((Builtin.all.map Builtin.entry).map (·.name)).Nodup := by
  decide +kernel

/-- The missing built-in types are registered in their order. -/
theorem entries_registerBuiltins :
    registry.registerBuiltins.entries.toList =
      registry.entries.toList ++ registry.missing (Builtin.all.map Builtin.entry) := by
  rw [registerBuiltins_eq_addEach]
  exact entries_addEach nodup_names_builtins

/-- Registering the built-in types again does nothing. -/
theorem registerBuiltins_registerBuiltins :
    registry.registerBuiltins.registerBuiltins = registry.registerBuiltins := by
  rw [registerBuiltins_eq_addEach registry.registerBuiltins]
  refine addEach_of_contains fun entry hentry => ?_
  rw [registerBuiltins_eq_addEach]
  exact contains_addEach (.inr ⟨entry, hentry, rfl⟩)

/-- Binding a prefix, granted or refused, changes nothing but bindings. -/
theorem exists_bindings_bind (registry : Registry) (qualifier space : String) :
    ∃ bindings, (registry.bind qualifier space).toOption.getD registry =
      { registry with bindings } := by
  unfold bind
  split
  · exact ⟨_, rfl⟩
  · split <;> exact ⟨registry.bindings, rfl⟩

/-- An edit adds the types that it offers, without those whose names are taken. -/
theorem entries_apply (hedits : operation.edits = true) :
    (operation.apply registry).entries.toList =
      registry.entries.toList ++ registry.missing (operation.offers registry) := by
  have hsingle (name : QualifiedName) (declaration : Declaration) :
      (registry.addNew name declaration).entries.toList =
        registry.entries.toList ++ registry.missing [⟨name, declaration⟩] := by
    have hname : ([⟨name, declaration⟩].map Entry.name).Nodup := List.nodup_singleton name
    exact entries_addEach hname
  cases operation with
  | setTarget space => exact (List.append_nil _).symm
  | bind qualifier space =>
    obtain ⟨bindings, hbindings⟩ := registry.exists_bindings_bind qualifier space
    rw [Operation.apply, hbindings]
    exact (List.append_nil _).symm
  | register declaration =>
    rw [Operation.apply, register, registerAs_eq_addNew]
    exact hsingle _ declaration
  | registerAs name declaration =>
    rw [Operation.apply, registerAs_eq_addNew]
    exact hsingle name declaration
  | registerBuiltins =>
    rw [Operation.apply, Operation.offers]
    exact entries_registerBuiltins
  | _ => cases hedits

/-- A history of edits adds types in the order in which they are registered. -/
theorem entries_replay (hedits : ∀ operation ∈ history, operation.edits = true) :
    (registry.replay history).entries.toList =
      registry.entries.toList ++ registry.added history := by
  induction history generalizing registry with
  | nil => exact (List.append_nil _).symm
  | cons operation history ih =>
    rw [replay_cons, ih fun other hother => hedits other (List.mem_cons_of_mem _ hother),
      entries_apply (hedits operation (List.mem_cons_self ..)), List.append_assoc, added]

/-! ### What stays -/

/-- The types and bindings of a registry are those of the other one, which may have more. -/
structure Extends (registry after : Registry) : Prop where
  /-- Names stand for the same ids. -/
  find?_eq : ∀ name id, registry.find? name = some id → after.find? name = some id
  /-- Types keep their names. -/
  nameOf?_eq : ∀ id name, registry.nameOf? id = some name → after.nameOf? id = some name
  /-- Types keep their declarations, with what is recorded in them. -/
  get?_eq : ∀ id declaration, registry.get? id = some declaration →
    after.get? id = some declaration
  /-- Prefixes stay bound to their namespaces. -/
  namespaceOf?_eq : ∀ qualifier space, registry.namespaceOf? qualifier = some space →
    after.namespaceOf? qualifier = some space

theorem Extends.refl (registry : Registry) : registry.Extends registry :=
  ⟨fun _ _ h => h, fun _ _ h => h, fun _ _ h => h, fun _ _ h => h⟩

theorem Extends.trans (hfirst : registry.Extends middle) (hsecond : middle.Extends after) :
    registry.Extends after where
  find?_eq name id hfind := hsecond.find?_eq name id (hfirst.find?_eq name id hfind)
  nameOf?_eq id name hname := hsecond.nameOf?_eq id name (hfirst.nameOf?_eq id name hname)
  get?_eq id declaration hget := hsecond.get?_eq id declaration (hfirst.get?_eq id declaration hget)
  namespaceOf?_eq qualifier space hspace :=
    hsecond.namespaceOf?_eq qualifier space (hfirst.namespaceOf?_eq qualifier space hspace)

theorem extends_addNew (name : QualifiedName) (declaration : Declaration) :
    registry.Extends (registry.addNew name declaration) := by
  cases hfind : registry.find? name with
  | some id =>
    rw [addNew_of_some hfind]
    exact .refl registry
  | none =>
    rw [addNew_of_none hfind]
    refine ⟨fun other id hother => ?_, fun id other hother => ?_, fun id kept hget => ?_,
      fun _ _ hspace => hspace⟩
    · have hne : name ≠ other := by
        rintro rfl
        rw [hfind] at hother
        cases hother
      rw [find?_append, if_neg hne, hother]
    · rw [nameOf?_append, if_neg (Nat.ne_of_lt (lt_size_of_nameOf? hother)), hother]
    · rw [get?_append, if_neg (Nat.ne_of_lt (lt_size_of_get? hget)), hget]

theorem extends_addEach (types : List Entry) : registry.Extends (registry.addEach types) := by
  induction types generalizing registry with
  | nil => exact .refl registry
  | cons entry types ih => exact (extends_addNew _ _).trans ih

theorem extends_apply (hedits : operation.edits = true) :
    registry.Extends (operation.apply registry) := by
  cases operation with
  | setTarget space =>
    exact ⟨fun _ _ h => h, fun _ _ h => h, fun _ _ h => h, fun _ _ h => h⟩
  | bind qualifier space =>
    have hbound (used bound : String) (hused : registry.namespaceOf? used = some bound) :
        (Operation.apply registry (.bind qualifier space)).namespaceOf? used = some bound := by
      rw [Operation.apply, namespaceOf?_bind, hused]
      split
      · rename_i hsame
        rw [hsame, hused, Option.getD_some]
      · rfl
    obtain ⟨bindings, hbindings⟩ := registry.exists_bindings_bind qualifier space
    refine ⟨?_, ?_, ?_, hbound⟩ <;> rw [Operation.apply, hbindings] <;> exact fun _ _ h => h
  | register declaration =>
    rw [Operation.apply, register, registerAs_eq_addNew]
    exact extends_addNew _ _
  | registerAs name declaration =>
    rw [Operation.apply, registerAs_eq_addNew]
    exact extends_addNew _ _
  | registerBuiltins =>
    rw [Operation.apply, registerBuiltins_eq_addEach]
    exact extends_addEach _
  | _ => cases hedits

theorem Extends.replay (hedits : ∀ operation ∈ history, operation.edits = true) :
    registry.Extends (registry.replay history) :=
  replay_induction (motive := registry.Extends) (fun _ hextends operation hmem =>
    hextends.trans (extends_apply (hedits operation hmem))) (.refl registry)

/-! ### What the tables say -/

/-- The index and the types of a registry say the same. -/
structure Tabled (registry : Registry) : Prop where
  /-- A name stands for a type exactly if the type has the name. -/
  find?_iff : ∀ name id, registry.find? name = some id ↔ registry.nameOf? id = some name
  /-- No two types have one name. -/
  nodup_names : registry.names.Nodup
  /-- Every type is found under its name. -/
  found : ∀ id ∈ registry.ids, ∃ name, registry.nameOf? id = some name ∧
    registry.find? name = some id
  /-- Types are listed and numbered from 0 in the order of their registration. -/
  types_eq : registry.types =
    registry.entries.toList.mapIdx fun position entry => (⟨position⟩, entry)

theorem IndexExact.tabled (hexact : registry.IndexExact) : registry.Tabled where
  find?_iff := hexact
  nodup_names := hexact.nodup_names
  found id hid := by
    have hlt := get?_ne_none_iff.mp (mem_ids_iff.mp hid)
    have hname : registry.nameOf? id = some registry.entries[id.index].name := by
      rw [nameOf?, Array.getElem?_eq_getElem hlt, Option.map_some]
    exact ⟨_, hname, (hexact _ id).mpr hname⟩
  types_eq := by
    refine List.ext_getElem? fun position => ?_
    rw [getElem?_types_eq, List.getElem?_mapIdx, Array.getElem?_toList]

/-- How a registry answers edits. -/
structure Answers (registry : Registry) : Prop where
  /-- A registration is refused exactly if the name is taken. -/
  registerAs_error_iff : ∀ name declaration fault,
    registry.registerAs name declaration = .error fault ↔
      fault = .duplicateType name ∧ name ∈ registry.names
  /-- So is one under the declared name in the target namespace. -/
  register_error_iff : ∀ declaration fault, registry.register declaration = .error fault ↔
    fault = .duplicateType ⟨registry.targetNamespace, declaration.name⟩ ∧
      ⟨registry.targetNamespace, declaration.name⟩ ∈ registry.names
  /-- A binding is refused exactly if the prefix has another namespace. -/
  bind_error_iff : ∀ qualifier space fault, registry.bind qualifier space = .error fault ↔
    ∃ existing, registry.namespaceOf? qualifier = some existing ∧ existing ≠ space ∧
      fault = .conflictingBinding qualifier existing space
  /-- A refused edit leaves the registry as it is. -/
  refused : ∀ operation : Operation, operation.refusal? registry ≠ none →
    operation.apply registry = registry
  /-- A registered type gets the next id and comes last. -/
  registerAs_ok : ∀ name declaration id after,
    registry.registerAs name declaration = .ok (id, after) →
      id = ⟨registry.size⟩ ∧ after.entries.toList = registry.entries.toList ++ [⟨name, declaration⟩]
  /-- The missing built-in types come last, in their order. -/
  registerBuiltins : registry.registerBuiltins.entries.toList =
    registry.entries.toList ++ registry.missing (Builtin.all.map Builtin.entry)
  /-- The second time there are none to be added. -/
  registerBuiltins_twice : registry.registerBuiltins.registerBuiltins = registry.registerBuiltins

theorem IndexExact.contains_iff_mem_names (hexact : registry.IndexExact) :
    registry.contains name = true ↔ name ∈ registry.names := by
  rw [contains_iff, mem_names_iff, Option.ne_none_iff_exists']
  exact exists_congr fun id => hexact name id

/-- The names of the built-in types that are not taken come after the others. -/
theorem IndexExact.names_registerBuiltins (hexact : registry.IndexExact) :
    registry.registerBuiltins.names = registry.names ++
      (Builtin.all.map fun type => ⟨xsdNamespace, type.localPart⟩).filter (· ∉ registry.names) := by
  have hfree (type : Builtin) : (!registry.contains type.entry.name) =
      decide (⟨xsdNamespace, type.localPart⟩ ∉ registry.names) := by
    rw [Bool.eq_iff_iff, Bool.not_eq_true', ← Bool.not_eq_true, hexact.contains_iff_mem_names,
      decide_eq_true_iff]
    rfl
  rw [names, entries_registerBuiltins, List.map_append, missing, List.filter_map, List.map_map,
    List.filter_map]
  exact congrArg _ (congrArg (List.map _) (List.filter_congr fun type _ => hfree type))

theorem bind_error_iff {qualifier space : String} {fault : RegistrationFault} :
    registry.bind qualifier space = .error fault ↔
      ∃ existing, registry.namespaceOf? qualifier = some existing ∧ existing ≠ space ∧
        fault = .conflictingBinding qualifier existing space := by
  unfold bind
  cases registry.namespaceOf? qualifier with
  | none => simp
  | some existing =>
    by_cases hsame : existing = space
    · simp [hsame]
    · simp [hsame, @eq_comm RegistrationFault]

theorem IndexExact.registerAs_error_iff (hexact : registry.IndexExact)
    {fault : RegistrationFault} :
    registry.registerAs name declaration = .error fault ↔
      fault = .duplicateType name ∧ name ∈ registry.names := by
  rw [← hexact.contains_iff_mem_names, registerAs]
  split
  · rename_i htaken
    simp [htaken, @eq_comm RegistrationFault]
  · rename_i hnew
    simp [hnew]

theorem IndexExact.answers (hexact : registry.IndexExact) : registry.Answers where
  registerAs_error_iff _ _ _ := hexact.registerAs_error_iff
  register_error_iff _ _ := hexact.registerAs_error_iff
  bind_error_iff _ _ _ := bind_error_iff
  refused _ := Operation.apply_of_refusal?
  registerAs_ok name declaration id after hok := by
    unfold registerAs at hok
    split at hok
    · cases hok
    · cases hok
      exact ⟨rfl, entries_append⟩
  registerBuiltins := entries_registerBuiltins
  registerBuiltins_twice := registerBuiltins_registerBuiltins

/-- **A registry that is only edited.** Its index and its types say the same, the types stand in it
in the order of their registration, further edits leave what it has as it is, and it refuses the
edits that would change something and no others. -/
theorem replay_tabled {start : Registry} {rest : List Operation}
    (hstart : start = empty ∨ ∃ config, start = ofConfig config)
    (hhistory : ∀ operation ∈ history, operation.edits = true)
    (hrest : ∀ operation ∈ rest, operation.edits = true) :
    (start.replay history).Tabled ∧
      (start.replay history).entries.toList = start.entries.toList ++ start.added history ∧
      (start.replay history).Extends ((start.replay history).replay rest) ∧
      (start.replay history).Answers := by
  have hexact : start.IndexExact := by
    rcases hstart with rfl | ⟨config, rfl⟩
    · exact indexExact_empty
    · exact indexExact_ofConfig config
  have hedited := hexact.replay_edits hhistory
  exact ⟨hedited.tabled, entries_replay hhistory, .replay hrest, hedited.answers⟩

/-- Edits of which one takes the name of a built-in type, and one registers a type in a namespace
that is the target no longer. -/
def takenNames : List Operation :=
  [.registerAs ⟨xsdNamespace, "token"⟩ (.complex (ComplexType.ofSequence [])),
    .setTarget "urn:a", .register (.extending "Item" "Base" none), .bind "a" "urn:a",
    .setTarget "urn:b"]

/-- Two edits that are refused, and then the built-in types, of which one is missing no longer. -/
def refusedEdits : List Operation :=
  [.bind "a" "urn:b", .registerAs ⟨"urn:a", "Item"⟩ (.builtin .string), .registerBuiltins]

/-- The two types stay where they are, and the other built-in types come after them. -/
theorem replay_tabled_takenNames :
    ((∀ operation ∈ takenNames, operation.edits = true) ∧
        ∀ operation ∈ refusedEdits, operation.edits = true) ∧
      (empty.replay takenNames).names = [⟨xsdNamespace, "token"⟩, ⟨"urn:a", "Item"⟩] ∧
      refusedEdits.map (Operation.refusal? (empty.replay takenNames)) =
        [some (.conflictingBinding "a" "urn:a" "urn:b"), some (.duplicateType ⟨"urn:a", "Item"⟩),
          none] ∧
      (empty.replay takenNames).missing
          ([.string, .text "token", .text "anyURI"].map Builtin.entry) =
        [.string, .text "anyURI"].map Builtin.entry ∧
      (empty.replay takenNames).registerBuiltins.names =
        [⟨xsdNamespace, "token"⟩, ⟨"urn:a", "Item"⟩] ++
          ["string", "normalizedString", "anyURI", "language", "Name", "NCName", "NMTOKEN", "ID",
            "IDREF", "boolean", "decimal", "integer", "int", "long", "short", "byte",
            "nonNegativeInteger", "positiveInteger", "unsignedInt", "unsignedLong", "float",
            "double", "date", "dateTime", "time", "duration", "base64Binary", "hexBinary", "QName",
            "anyType"].map (QualifiedName.mk xsdNamespace) ∧
      (empty.replay takenNames).Tabled ∧
      (empty.replay takenNames).entries.toList = empty.entries.toList ++ empty.added takenNames ∧
      (empty.replay takenNames).Extends ((empty.replay takenNames).replay refusedEdits) ∧
      (empty.replay takenNames).Answers := by
  have hhistory : ∀ operation ∈ takenNames, operation.edits = true := by decide
  have hrest : ∀ operation ∈ refusedEdits, operation.edits = true := by decide
  have hnames : (empty.replay takenNames).names =
      [⟨xsdNamespace, "token"⟩, ⟨"urn:a", "Item"⟩] := by decide +kernel
  have hadded := (indexExact_empty.replay_edits hhistory).names_registerBuiltins
  rw [hnames] at hadded
  exact ⟨⟨hhistory, hrest⟩, hnames, by decide +kernel, by decide +kernel,
    hadded.trans (by decide +kernel), replay_tabled (.inl rfl) hhistory hrest⟩

end Registry

end XsdDerivation
