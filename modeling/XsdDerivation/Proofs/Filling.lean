import XsdDerivation.Proofs.DeclaredWalk

/-!
# Filling registries

Binding prefixes and registering types only add to a registry: the types keep their ids and
declarations, and what a reference names it goes on to name. Nothing is recorded on the way, so
that a registry that has been filled only has nothing recorded at all.
-/

namespace XsdDerivation.Registry

variable {registry other third : Registry} {id : TypeId} {name : QualifiedName}
  {declaration : Declaration}

/-- Types have been registered and none has been visited. -/
structure NeverCompiled (registry : Registry) : Prop where
  /-- Nothing is recorded in any type. -/
  unrecorded : ∀ id declaration, registry.get? id = some declaration →
    declaration.forget = declaration
  /-- Every registered name stands for a registered type. -/
  indexed : registry.Indexed

/-- The registry without types has never been compiled. -/
theorem neverCompiled_empty : empty.NeverCompiled where
  unrecorded _ _ hget := by simp [get?, empty] at hget
  indexed name id hfind := by
    have hnone : empty.find? name = none := Std.TreeMap.getElem?_emptyc
    rw [hnone] at hfind
    cases hfind

/-- Nothing is left to be forgotten. -/
theorem NeverCompiled.forget_eq (hnever : registry.NeverCompiled) : registry.forget = registry := by
  have hentries : registry.forget.entries = registry.entries := by
    refine Array.ext_getElem? fun index => ?_
    simp only [forget, mapDeclarations, Array.getElem?_map]
    cases hentry : registry.entries[index]? with
    | none => rfl
    | some entry =>
      have hget : registry.get? ⟨index⟩ = some entry.declaration := by
        rw [get?, hentry, Option.map_some]
      rw [Option.map_some, hnever.unrecorded ⟨index⟩ entry.declaration hget]
  calc registry.forget = { registry with entries := registry.forget.entries } := rfl
    _ = registry := by rw [hentries]

/-- Forgetting what is recorded leaves a registry that has never been compiled. -/
theorem Indexed.neverCompiled_forget (hindexed : registry.Indexed) :
    registry.forget.NeverCompiled where
  unrecorded id declaration hget := by
    rw [get?_forget] at hget
    obtain ⟨recorded, _, rfl⟩ := Option.map_eq_some_iff.mp hget
    exact recorded.forget_forget
  indexed name id hfind := by
    rw [size_forget]
    exact hindexed name id hfind

/-! ### Growth -/

/-- The other registry has been filled further, with types in which nothing is recorded. -/
structure Grows (registry other : Registry) : Prop where
  /-- Types keep their ids and declarations. -/
  get?_eq : ∀ id declaration, registry.get? id = some declaration →
    other.get? id = some declaration
  /-- Nothing is recorded in a new type. -/
  unrecorded : ∀ id declaration, registry.get? id = none → other.get? id = some declaration →
    declaration.forget = declaration
  /-- References name what they named. -/
  find_eq : ∀ reference id, registry.findReferenced? reference = some id →
    other.findReferenced? reference = some id
  /-- Names go on to stand for registered types. -/
  indexed : registry.Indexed → other.Indexed

theorem Grows.refl (registry : Registry) : registry.Grows registry where
  get?_eq _ _ hget := hget
  unrecorded _ _ hnone hget := by
    rw [hnone] at hget
    cases hget
  find_eq _ _ hfind := hfind
  indexed hindexed := hindexed

theorem Grows.trans (hfirst : registry.Grows other) (hsecond : other.Grows third) :
    registry.Grows third where
  get?_eq id declaration hget := hsecond.get?_eq id declaration (hfirst.get?_eq id declaration hget)
  unrecorded id declaration hnone hget := by
    cases hother : other.get? id with
    | none => exact hsecond.unrecorded id declaration hother hget
    | some middle =>
      have hsame := hsecond.get?_eq id middle hother
      rw [hget, Option.some.injEq] at hsame
      rw [hsame]
      exact hfirst.unrecorded id middle hnone hother
  find_eq reference id hfind := hsecond.find_eq reference id (hfirst.find_eq reference id hfind)
  indexed hindexed := hsecond.indexed (hfirst.indexed hindexed)

/-- A registry that has never been compiled may be filled further. -/
theorem NeverCompiled.grows (hnever : registry.NeverCompiled) (hgrows : registry.Grows other) :
    other.NeverCompiled where
  unrecorded id declaration hget := by
    cases hbefore : registry.get? id with
    | none => exact hgrows.unrecorded id declaration hbefore hget
    | some before =>
      have hsame := hgrows.get?_eq id before hbefore
      rw [hget, Option.some.injEq] at hsame
      rw [hsame]
      exact hnever.unrecorded id before hbefore
  indexed := hgrows.indexed hnever.indexed

/-- A registry grows if it gets a type under a new name. -/
theorem grows_append (hnew : registry.contains name = false)
    (hforget : declaration.forget = declaration) :
    registry.Grows (registry.append name declaration) where
  get?_eq id found hget := by
    have hlt := lt_size_of_get? hget
    rw [get?_append, if_neg (by omega), hget]
  unrecorded id found hnone hget := by
    rw [get?_append] at hget
    split at hget
    · exact Option.some.inj hget ▸ hforget
    · rw [hnone] at hget
      cases hget
  find_eq reference id hfind := by
    obtain ⟨target, hresolve, htarget⟩ := Option.bind_eq_some_iff.mp hfind
    have hne : name ≠ target := by
      rintro rfl
      have hnone : registry.find? name = none :=
        Std.TreeMap.getElem?_eq_none_of_contains_eq_false hnew
      rw [hnone] at htarget
      cases htarget
    have hkeep : (registry.append name declaration).find? target = some id := by
      rw [find?_append, if_neg hne, htarget]
    exact Option.bind_eq_some_iff.mpr ⟨target, hresolve, hkeep⟩
  indexed hindexed target id hfind := by
    rw [find?_append] at hfind
    rw [size_append]
    split at hfind
    · rw [← Option.some.inj hfind]
      exact Nat.lt_succ_self _
    · exact Nat.lt_succ_of_lt (hindexed target id hfind)

/-- A registry grows if a prefix without a namespace is bound. -/
theorem grows_bind {qualifier space : String} (hbind : registry.bind qualifier space = .ok other) :
    registry.Grows other := by
  unfold bind at hbind
  split at hbind
  · rename_i hunbound
    rw [← Except.ok.inj hbind]
    refine ⟨fun _ _ hget => hget, (Grows.refl registry).unrecorded, fun reference id hfind => ?_,
      fun hindexed => hindexed⟩
    obtain ⟨target, hresolve, htarget⟩ := Option.bind_eq_some_iff.mp hfind
    refine Option.bind_eq_some_iff.mpr ⟨target, ?_, htarget⟩
    unfold resolve? at hresolve ⊢
    cases hqualifier : (Reference.ofText reference).qualifier with
    | none => simpa [hqualifier] using hresolve
    | some used =>
      simp only [hqualifier] at hresolve ⊢
      obtain ⟨bound, hbound, hname⟩ := Option.map_eq_some_iff.mp hresolve
      have hne : qualifier ≠ used := by
        rintro rfl
        rw [hunbound] at hbound
        cases hbound
      refine Option.map_eq_some_iff.mpr ⟨bound, ?_, hname⟩
      simpa [namespaceOf?, Std.TreeMap.getElem?_insert, hne] using hbound
  · split at hbind
    · exact Except.ok.inj hbind ▸ Grows.refl registry
    · cases hbind

/-- A registry grows if a type is registered in which nothing is recorded. -/
theorem grows_registerAs {result : TypeId × Registry}
    (hregister : registry.registerAs name declaration = .ok result)
    (hforget : declaration.forget = declaration) : registry.Grows result.2 := by
  unfold registerAs at hregister
  split at hregister
  · cases hregister
  · rename_i hnew
    rw [← Except.ok.inj hregister]
    exact grows_append (by simpa using hnew) hforget

/-- A registry grows if the built-in types are registered. -/
theorem grows_registerBuiltins : registry.Grows registry.registerBuiltins := by
  have hstep (registry : Registry) (type : Builtin) :
      registry.Grows (registry.registerBuiltin type) := by
    unfold registerBuiltin
    dsimp only
    split
    · exact Grows.refl registry
    · rename_i hnew
      exact grows_append (by simpa using hnew) rfl
  unfold registerBuiltins
  generalize Builtin.all = types
  induction types generalizing registry with
  | nil => exact Grows.refl registry
  | cons type types ih => exact (hstep registry type).trans ih

/-- Whether a registry has been compiled is a matter of its types and names alone. -/
theorem NeverCompiled.with_bindings (hnever : registry.NeverCompiled)
    (bindings : Std.TreeMap String String) (space : String) :
    ({ registry with bindings, targetNamespace := space } : Registry).NeverCompiled where
  unrecorded := hnever.unrecorded
  indexed := hnever.indexed

/-- A registry that has the built-in types and the prefixes of a configuration has never been
compiled. -/
theorem neverCompiled_ofConfig (config : Config) : (ofConfig config).NeverCompiled :=
  (neverCompiled_empty.grows grows_registerBuiltins).with_bindings _ _

/-! ### Filling a registry after forgetting -/

@[simp] theorem forget_append : (registry.append name declaration).forget =
    registry.forget.append name declaration.forget := by
  simp [forget, mapDeclarations, append, size]

theorem bind_forget (qualifier space : String) :
    registry.forget.bind qualifier space = (registry.bind qualifier space).map forget := by
  have hbound : registry.forget.namespaceOf? qualifier = registry.namespaceOf? qualifier := rfl
  rw [bind, bind, hbound]
  cases registry.namespaceOf? qualifier with
  | none => rfl
  | some existing =>
    dsimp only
    split <;> rfl

theorem registerAs_forget (hforget : declaration.forget = declaration) :
    registry.forget.registerAs name declaration =
      (registry.registerAs name declaration).map fun result => (result.1, result.2.forget) := by
  have htaken : registry.forget.contains name = registry.contains name := rfl
  rw [registerAs, registerAs, htaken]
  split
  · rfl
  · simp [Except.map, hforget]

theorem registerBuiltins_forget : registry.forget.registerBuiltins =
    registry.registerBuiltins.forget := by
  have hstep (registry : Registry) (type : Builtin) :
      registry.forget.registerBuiltin type = (registry.registerBuiltin type).forget := by
    have htaken (name : QualifiedName) : registry.forget.contains name = registry.contains name :=
      rfl
    unfold registerBuiltin
    dsimp only
    rw [htaken]
    split
    · rfl
    · rw [forget_append]
      rfl
  unfold registerBuiltins
  generalize Builtin.all = types
  induction types generalizing registry with
  | nil => rfl
  | cons type types ih => rw [List.foldl_cons, List.foldl_cons, hstep, ih]

end XsdDerivation.Registry
