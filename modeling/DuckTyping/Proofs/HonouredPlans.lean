import DuckTyping.Proofs.ObtainedAdapters
import DuckTyping.Proofs.SatisfiedShapes
import DuckTyping.Proofs.SoundConverters
import DuckTyping.Proofs.ViewPaths

set_option autoImplicit false

/-!
# Adapters keep what their plans promise

While the store stays as it was when a mapping was inspected, the adapter does what its plan says:
it knows the members of the shape and no other, reads a direct one as it is looked up, converts a
convertible one unless the value cannot be read, and gives a nested one an adapter of its own. That
adapter has a plan made in the same store, so it keeps its promises in turn, and all adapters below
it do.

Inspector and adapter look keys up through views that they make for themselves. These are one and
the same: the plan keeps the sensitivity of the first. What a view looks up under the name of a
member is what it looks up under the stored key that the name resolves to.
-/

namespace DuckTyping

/-! ## Looking up a name and the key it resolves to -/

namespace Store

variable {σ : Store} {a : Nat} {d : Dictionary} {m : MapRef} {c : KeyComparison}

theorem get?_eq_of_resolveKey? (hd : σ.mapping a = .dictionary d)
    (h : (MapRef.cell a).Shows m) (hc : σ.comparison? m = some c) {key stored : String}
    (hkey : d.resolveKey? c key = some stored) : σ.get? m key = σ.get? m stored := by
  have hstored : d.resolveKey? c stored = some stored :=
    Dictionary.resolveKey?_of_mem (Dictionary.mem_keys_of_resolveKey? hkey) c
  induction h generalizing c with
  | self =>
    have hdeclares : d.comparison = c := by
      simpa [comparison?, hd, Mapping.comparison?] using hc
    subst hdeclares
    have hget : d.get? key = d.get? stored := by
      rw [d.get?_eq_bind_resolveKey? key, hkey, Option.bind_some]
    simpa [get?, hd, Mapping.get?] using hget
  | @through inner tag c' hinner ih =>
    cases hc
    rw [get?, get?, resolveKey?_of_shows hd hinner, resolveKey?_of_shows hd hinner, hkey, hstored]
    split
    · rename_i hsame
      rw [ih hsame hkey hstored]
    · rfl

theorem exists_lookUp?_of_resolveKey? (hσ : σ.HoldsDictionaries) {v : View} {key stored : String}
    (hkey : v.resolveKey? σ key = some stored) :
    ∃ x, v.lookUp? σ key = some x ∧ v.lookUp? σ stored = some x := by
  obtain ⟨inner, c⟩ := v
  obtain ⟨d, a, hd, hshows⟩ := hσ.exists_underlies inner
  have hresolved : d.resolveKey? c key = some stored :=
    (resolveKey?_of_shows hd hshows c key).symm.trans hkey
  obtain ⟨_, x, _, hx, _⟩ := lookUp?_of_resolveKey? hd hshows hresolved
  have hsame := get?_eq_of_resolveKey? hd (hshows.through none c) rfl hresolved
  exact ⟨x, hx, hsame.symm.trans hx⟩

end Store

/-! ## What inspection finds in a mapping -/

namespace Inspector

variable {i : Inspector} {σ : Store}

/-- A member that a mapping of the store resolves is an optional one that is absent, or a property
that is resolved by the value looked up under its name. -/
theorem resolves_of_resolution (hσ : σ.HoldsDictionaries) {ref : MapRef} {m : Member}
    {r : Resolution} (hr : i.resolution σ (.map ref) m = r) (h : r.isUnresolved = false) :
    r = .absent ∨
      ∃ wanted writable key v, m.kind = .property wanted writable ∧
        (i.view σ ref).lookUp? σ m.name = some v ∧ (i.view σ ref).lookUp? σ key = some v ∧
        i.Resolves σ wanted key v r := by
  obtain ⟨name, kind, optional⟩ := m
  unfold resolution resolveKey at hr
  cases hkey : (i.view σ ref).resolveKey? σ name with
  | none =>
    simp only [hkey] at hr
    subst hr
    cases optional with
    | true => exact .inl rfl
    | false => cases h
  | some key =>
    obtain ⟨v, hname, hstored⟩ := Store.exists_lookUp?_of_resolveKey? hσ hkey
    simp only [hkey, hstored, Option.getD_some] at hr
    cases kind with
    | method signature =>
      subst hr
      cases h
    | property wanted writable =>
      exact .inr ⟨wanted, writable, key, v, rfl, hname, hstored, resolves_of_resolveValue hr h⟩

theorem wrap_caseSensitive_inspect (i : Inspector) (σ : Store) (shape : Shape) (ref : MapRef) :
    σ.wrap ref (some (i.inspect σ shape (.map ref)).caseSensitive) = i.view σ ref := by
  have hflag : (i.inspect σ shape (.map ref)).caseSensitive =
      (i.view σ ref).comparison.isCaseSensitive := by
    obtain ⟨serial, name, members⟩ := shape
    unfold inspect
    rfl
  rw [hflag, Store.wrap, Option.getD_some, KeyComparison.ofCaseSensitive_isCaseSensitive]
  rfl

end Inspector

namespace Adapter

variable {a b : Adapter} {i : Inspector} {σ : Store} {name : String}

/-! ## Names that an adapter knows -/

/-- The result does not report that a member is unknown. -/
def Recognizes {α : Type} (result : Except AdaptError α) : Prop :=
  ∀ shape member, result ≠ .error (.unknownMember shape member)

/-- Nothing that is done with a member of this name is answered with its being unknown. -/
structure Knows (a : Adapter) (σ : Store) (name : String) : Prop where
  read : Recognizes (a.read σ name)
  write : ∀ v, Recognizes (a.write σ name v)
  call : ∀ args, Recognizes (a.call σ name args).1
  nested : Recognizes (a.nested σ name)

/-- Whatever is done with a member of this name, the answer is that it is unknown. -/
structure Denies (a : Adapter) (σ : Store) (name : String) : Prop where
  read : a.read σ name = .error (.unknownMember a.shape.name name)
  write : ∀ v, a.write σ name v = .error (.unknownMember a.shape.name name)
  call : ∀ args, a.call σ name args = (.error (.unknownMember a.shape.name name), σ)
  nested : a.nested σ name = .error (.unknownMember a.shape.name name)

section Recognizes

variable {α β : Type}

theorem recognizes_ok (v : α) : Recognizes (.ok v) := by
  intro shape member h
  cases h

theorem recognizes_error {e : AdaptError} (h : ∀ shape member, e ≠ .unknownMember shape member) :
    Recognizes (.error e : Except AdaptError α) := by
  intro shape member heq
  exact h shape member (Except.error.inj heq)

theorem Recognizes.bind {x : Except AdaptError α} {f : α → Except AdaptError β}
    (hx : Recognizes x) (hf : ∀ v, Recognizes (f v)) : Recognizes (x.bind f) := by
  cases x with
  | error e =>
    intro shape member h
    refine hx shape member ?_
    rw [Except.error.inj h]
  | ok v => exact hf v

theorem recognizes_fetch (a : Adapter) (σ : Store) (member : String) :
    Recognizes (a.fetch σ member) := by
  intro shape unknown h
  unfold fetch at h
  split at h <;> split at h <;> cases h

theorem recognizes_convert (a : Adapter) (v : Value) (t : ValueType) :
    Recognizes (a.convert v t) := by
  intro shape unknown h
  unfold convert at h
  split at h <;> cases h

theorem recognizes_coerce (a : Adapter) (v : Value) (t : ValueType) :
    Recognizes (a.coerce v t) := by
  unfold coerce
  split
  · exact recognizes_ok v
  · split
    · exact a.recognizes_convert v t
    · exact recognizes_error fun _ _ => AdaptError.noConfusion

theorem recognizes_outcome (name : String) (result : Except HostError Store) :
    Recognizes (outcome name result) := by
  intro shape unknown h
  unfold outcome at h
  split at h <;> cases h

theorem recognizes_deliver (a : Adapter) (σ : Store) (name member : String) (v : Value) :
    Recognizes (a.deliver σ name member v) := by
  unfold deliver
  split
  · split
    · exact recognizes_error fun _ _ => AdaptError.noConfusion
    · exact recognizes_outcome name _
  · split
    · exact recognizes_outcome name _
    · exact recognizes_error fun _ _ => AdaptError.noConfusion

theorem recognizes_place (a : Adapter) (σ : Store) (name : String) (c : Capability)
    (typed : Value) : Recognizes (a.place σ name c typed) := by
  unfold place
  split
  · exact a.recognizes_deliver σ name _ typed
  · exact a.recognizes_deliver σ name _ typed
  · exact (a.recognizes_convert typed _).bind fun stored => a.recognizes_deliver σ name _ stored
  · split
    · exact a.recognizes_deliver σ name _ typed
    · exact recognizes_error fun _ _ => AdaptError.noConfusion
  · exact recognizes_error fun _ _ => AdaptError.noConfusion

theorem recognizes_build (i : Inspector) (shape : Shape) (source : Source) (plan : Plan) :
    Recognizes (build i shape source plan) := by
  intro shape unknown h
  unfold build at h
  split at h <;> cases h

end Recognizes

section Capability

variable {c : Capability} (hc : a.capability name = .ok c)

include hc

theorem recognizes_property : Recognizes (a.property name) := by
  intro shape unknown h
  rw [property, hc] at h
  simp only [bind, Except.bind] at h
  split at h <;> cases h

theorem recognizes_read (σ : Store) : Recognizes (a.read σ name) := by
  refine (recognizes_property hc).bind fun c => ?_
  split
  · exact (a.recognizes_fetch σ _).bind fun v => a.recognizes_coerce v _
  · exact a.recognizes_fetch σ _
  · exact (a.recognizes_fetch σ _).bind fun v => a.recognizes_convert v _
  · exact recognizes_ok _
  · exact recognizes_error fun _ _ => AdaptError.noConfusion

theorem recognizes_write (σ : Store) (v : Value) : Recognizes (a.write σ name v) := by
  rw [write_eq]
  refine (recognizes_property hc).bind fun c => ?_
  split
  · exact (a.recognizes_coerce v _).bind fun typed => a.recognizes_place σ name c typed
  · exact recognizes_error fun _ _ => AdaptError.noConfusion

theorem recognizes_call (σ : Store) (args : List Value) : Recognizes (a.call σ name args).1 := by
  intro shape unknown h
  unfold call at h
  rw [hc] at h
  simp only at h
  split at h
  · split at h
    · cases h
    · split at h
      · split at h <;> cases h
      · cases h
  · cases h

theorem recognizes_nested (σ : Store) : Recognizes (a.nested σ name) := by
  refine (recognizes_property hc).bind fun c => ?_
  split
  · refine (recognizes_read hc σ).bind fun v => ?_
    split
    · exact recognizes_build _ _ _ _
    · exact recognizes_error fun _ _ => AdaptError.noConfusion
  · exact recognizes_error fun _ _ => AdaptError.noConfusion

theorem knows_of_capability (σ : Store) : a.Knows σ name where
  read := recognizes_read hc σ
  write := recognizes_write hc σ
  call := recognizes_call hc σ
  nested := recognizes_nested hc σ

end Capability

theorem denies_of_capability (σ : Store)
    (hc : a.capability name = .error (.unknownMember a.shape.name name)) : a.Denies σ name := by
  have hproperty : a.property name = .error (.unknownMember a.shape.name name) := by
    rw [property, hc]
    rfl
  refine ⟨?_, fun v => ?_, fun args => ?_, ?_⟩
  · rw [read, hproperty]
    rfl
  · rw [write, hproperty]
    rfl
  · rw [call, hc]
  · rw [nested, hproperty]
    rfl

/-! ## Adapters as inspection makes them now -/

/-- The adapter of a source, with the plan that inspection makes of it in this store. -/
def inspected (i : Inspector) (σ : Store) (shape : Shape) (source : Source) : Adapter :=
  ⟨i, shape, source, i.inspect σ shape source⟩

/-- A view of the mapping with the sensitivity of the plan looks up this value, under the name of a
member as under a key. -/
def LooksUp (σ : Store) (a : Adapter) (ref : MapRef) (name key : String) (v : Value) : Prop :=
  (σ.wrap ref (some a.plan.caseSensitive)).lookUp? σ name = some v ∧
    (σ.wrap ref (some a.plan.caseSensitive)).lookUp? σ key = some v

/-- The adapter does over a mapping what its plan says. -/
structure KeepsPlan (σ : Store) (a : Adapter) (ref : MapRef) : Prop where
  source : a.source = .map ref
  knows : ∀ m ∈ a.shape.members, a.Knows σ m.name
  denies : ∀ name ∉ a.shape.members.map Member.name, a.Denies σ name
  direct : ∀ name key, a.plan.resolution? name = some (.direct key) →
    ∃ v, a.LooksUp σ ref name key v ∧ a.read σ name = .ok v
  convertible : ∀ name key stored declared,
    a.plan.resolution? name = some (.convertible key stored declared) →
    ∃ v, a.LooksUp σ ref name key v ∧ v.valueType = stored ∧
      ((∃ w, a.read σ name = .ok w ∧ w.valueType = declared) ∨
        ∃ reason, a.read σ name = .error (.conversion (.ofValue v declared reason)))
  nested : ∀ name key, a.plan.resolution? name = some (.nested key) →
    ∃ v s source, a.LooksUp σ ref name key v ∧
      (a.shape.member? name).map Member.valueType = some (.shape s) ∧
      Source.ofValue? v = some source ∧
      a.nested σ name = .ok (inspected a.inspector σ s source)

theorem fetch_of_looksUp {ref : MapRef} {key : String} {v : Value} (hsource : a.source = .map ref)
    (h : a.LooksUp σ ref name key v) : a.fetch σ key = .ok v := by
  have hview : (a.view ref).lookUp? σ key = some v := h.2
  rw [fetch, hsource]
  simp only [hview]

theorem coerce_of_keeps {v : Value} {t : ValueType}
    (h : (v.isNull || v.conformsTo t) = true) : a.coerce v t = .ok v :=
  if_pos h

section Inspected

variable {shape : Shape} {ref : MapRef} (hσ : σ.HoldsDictionaries)
  (hsatisfiable : (i.inspect σ shape (.map ref)).isSatisfiable = true)

theorem entryFor?_inspect {source : Source} {m : Member}
    (hm : shape.member? name = some m) :
    (i.inspect σ shape source).entryFor? name = some ⟨m, i.resolution σ source m⟩ := by
  rw [Plan.entryFor?, Inspector.entries_inspect, List.find?_map]
  exact congrArg (Option.map fun m => (⟨m, i.resolution σ source m⟩ : PlanEntry)) hm

theorem exists_entryFor?_of_resolution? {source : Source} {r : Resolution}
    (h : (i.inspect σ shape source).resolution? name = some r) :
    ∃ m, shape.member? name = some m ∧ m.name = name ∧ i.resolution σ source m = r ∧
      (i.inspect σ shape source).entryFor? name = some ⟨m, r⟩ := by
  rw [Plan.resolution?_eq_map_entryFor?] at h
  obtain ⟨e, he, rfl⟩ := Option.map_eq_some_iff.1 h
  have hname := (Plan.mem_of_entryFor? he).2
  have hentry := he
  rw [Plan.entryFor?, Inspector.entries_inspect, List.find?_map] at he
  obtain ⟨m, hm, rfl⟩ := Option.map_eq_some_iff.1 he
  exact ⟨m, hm, hname, rfl, hentry⟩

theorem exists_entryFor?_iff {source : Source} :
    (∃ e, (i.inspect σ shape source).entryFor? name = some e) ↔
      name ∈ shape.members.map Member.name := by
  rw [← Option.isSome_iff_exists, Plan.entryFor?, Inspector.entries_inspect, List.find?_map,
    Option.isSome_map, List.isSome_find?, List.any_eq_true, List.mem_map]
  simp

include hσ hsatisfiable

/-- A member that is resolved and not absent is a property, resolved by the value that is looked up
for it. -/
theorem exists_resolves {r : Resolution}
    (h : (i.inspect σ shape (.map ref)).resolution? name = some r) (hr : r ≠ .absent) :
    ∃ m wanted key v, shape.member? name = some m ∧ m.isProperty = true ∧
      m.valueType = wanted ∧ (i.inspect σ shape (.map ref)).entryFor? name = some ⟨m, r⟩ ∧
      (inspected i σ shape (.map ref)).LooksUp σ ref name key v ∧ i.Resolves σ wanted key v r := by
  obtain ⟨m, hm, rfl, hresolution, hentry⟩ := exists_entryFor?_of_resolution? h
  have hresolved : r.isUnresolved = false :=
    Plan.isUnresolved_of_mem hsatisfiable (Plan.mem_of_entryFor? hentry).1
  rcases Inspector.resolves_of_resolution hσ hresolution hresolved with
    habsent | ⟨wanted, writable, key, v, hkind, hname, hkey, hresolves⟩
  · exact absurd habsent hr
  · refine ⟨m, wanted, key, v, hm, ?_, ?_, hentry, ?_, hresolves⟩
    · rw [Member.isProperty, hkind]
    · rw [Member.valueType, hkind]
    · rw [← Inspector.wrap_caseSensitive_inspect i σ shape ref] at hname hkey
      exact ⟨hname, hkey⟩

theorem read_direct {key : String}
    (h : (i.inspect σ shape (.map ref)).resolution? name = some (.direct key)) :
    ∃ v, (inspected i σ shape (.map ref)).LooksUp σ ref name key v ∧
      (inspected i σ shape (.map ref)).read σ name = .ok v := by
  obtain ⟨m, wanted, _, v, _, hproperty, htype, hentry, hlooks, hresolves⟩ :=
    exists_resolves hσ hsatisfiable h (by simp)
  cases hresolves with
  | direct hkeeps =>
    refine ⟨v, hlooks, ?_⟩
    rw [read_of_direct hsatisfiable hentry hproperty σ rfl, fetch_of_looksUp rfl hlooks]
    rw [← htype] at hkeeps
    exact coerce_of_keeps hkeeps

/-- With sound converters a convertible property is read as a value of its type, unless the value
that is looked up does not read as one. -/
theorem read_convertible (hsound : i.registry.IsSound) {key : String} {stored declared : ValueType}
    (h : (i.inspect σ shape (.map ref)).resolution? name =
      some (.convertible key stored declared)) :
    ∃ v, (inspected i σ shape (.map ref)).LooksUp σ ref name key v ∧ v.valueType = stored ∧
      ((∃ w, (inspected i σ shape (.map ref)).read σ name = .ok w ∧ w.valueType = declared) ∨
        ∃ reason, (inspected i σ shape (.map ref)).read σ name =
          .error (.conversion (.ofValue v declared reason))) := by
  obtain ⟨m, wanted, _, v, _, hproperty, htype, hentry, hlooks, hresolves⟩ :=
    exists_resolves hσ hsatisfiable h (by simp)
  cases hresolves with
  | convertible hdiffers hallowed hcan =>
    refine ⟨v, hlooks, rfl, ?_⟩
    obtain ⟨hnull, hfits⟩ := Bool.or_eq_false_iff.1 hdiffers
    have hends := hsound.endsSoundly_convert hnull hfits hcan
    have hread : (inspected i σ shape (.map ref)).read σ name =
        (inspected i σ shape (.map ref)).convert v declared := by
      rw [read_of_convertible hsatisfiable hentry hproperty σ rfl, fetch_of_looksUp rfl hlooks,
        ← htype]
      rfl
    rw [hread, convert]
    simp only [inspected]
    cases hconvert : i.registry.convert v declared with
    | ok w =>
      rw [hconvert] at hends
      exact .inl ⟨w, rfl, hends⟩
    | error e =>
      rw [hconvert] at hends
      obtain ⟨reason, rfl⟩ := hends
      exact .inr ⟨reason, rfl⟩

/-- A nested property has an adapter: the one that inspection makes of what is looked up. -/
theorem nested_nested {key : String}
    (h : (i.inspect σ shape (.map ref)).resolution? name = some (.nested key)) :
    ∃ v s source, (inspected i σ shape (.map ref)).LooksUp σ ref name key v ∧
      (shape.member? name).map Member.valueType = some (.shape s) ∧
      Source.ofValue? v = some source ∧
      (inspected i σ shape (.map ref)).nested σ name = .ok (inspected i σ s source) := by
  obtain ⟨m, wanted, _, v, hm, hproperty, htype, hentry, hlooks, hresolves⟩ :=
    exists_resolves hσ hsatisfiable h (by simp)
  cases hresolves with
  | @nested s source hwanted hsource hsatisfies =>
    rw [hwanted] at htype
    refine ⟨v, s, source, hlooks, ?_, hsource, ?_⟩
    · rw [hm, Option.map_some, htype]
    · have hread : (inspected i σ shape (.map ref)).read σ name = .ok v := by
        rw [read_of_nested hsatisfiable hentry hproperty σ rfl, fetch_of_looksUp rfl hlooks]
      have hbuild : build i s source (i.inspect σ s source) = .ok (inspected i σ s source) :=
        build_eq_ok_iff.2 ⟨hsatisfies, rfl⟩
      rw [nested, property_of_entryFor? hsatisfiable hentry hproperty]
      simp only [bind, Except.bind, PlanEntry.capability, htype, hread, hsource]
      exact hbuild

/-- With sound converters an adapter keeps a plan that is made in the store as it is. -/
theorem keepsPlan_inspected (hsound : i.registry.IsSound) :
    KeepsPlan σ (inspected i σ shape (.map ref)) ref where
  source := rfl
  knows := by
    intro m hm
    have hname : m.name ∈ shape.members.map Member.name := List.mem_map_of_mem hm
    obtain ⟨e, he⟩ := exists_entryFor?_iff.2 hname
    exact knows_of_capability (capability_of_entryFor? hsatisfiable he) σ
  denies := by
    intro name hname
    refine denies_of_capability σ (capability_of_entryFor?_eq_none hsatisfiable ?_)
    refine Option.eq_none_iff_forall_ne_some.2 fun e he => hname ?_
    exact exists_entryFor?_iff.1 ⟨e, he⟩
  direct := by
    intro name key h
    exact read_direct hσ hsatisfiable h
  convertible := by
    intro name key stored declared h
    exact read_convertible hσ hsatisfiable hsound h
  nested := by
    intro name key h
    exact nested_nested hσ hsatisfiable h

end Inspected

/-! ## Nested adapters at any depth -/

/-- Following nested members of mappings, one name after another, leads from the first adapter to
the last. -/
inductive Descends (σ : Store) : Adapter → List String → Adapter → Prop
  | here (a : Adapter) : Descends σ a [] a
  | step {a next last : Adapter} {name : String} {names : List String} {ref : MapRef}
      (h : a.nested σ name = .ok next) (hsource : next.source = .map ref)
      (rest : Descends σ next names last) : Descends σ a (name :: names) last

/-- One name further, an adapter of a mapping again has a satisfiable plan of this store. -/
theorem eq_inspected_of_nested {shape : Shape} {source : Source} {ref : MapRef}
    (h : (inspected i σ shape source).nested σ name = .ok b) (hsource : b.source = .map ref) :
    b = inspected i σ b.shape (.map ref) ∧
      (i.inspect σ b.shape (.map ref)).isSatisfiable = true := by
  obtain ⟨_, s, _, nestedSource, _, _, _, _, hsatisfiable, rfl⟩ := exists_of_nested_eq_ok h
  simp only at hsource
  subst hsource
  exact ⟨rfl, hsatisfiable⟩

/-- All the way down adapters keep their plans. -/
theorem Descends.keepsPlan (hσ : σ.HoldsDictionaries) (hsound : i.registry.IsSound)
    {names : List String} (h : Descends σ a names b) {ref : MapRef}
    (ha : a = inspected i σ a.shape (.map ref))
    (hsatisfiable : (i.inspect σ a.shape (.map ref)).isSatisfiable = true) :
    ∃ m, KeepsPlan σ b m := by
  induction h generalizing ref with
  | here a =>
    rw [ha]
    exact ⟨ref, keepsPlan_inspected hσ hsatisfiable hsound⟩
  | step hnested hsource rest ih =>
    rw [ha] at hnested
    obtain ⟨hnext, hnextSatisfiable⟩ := eq_inspected_of_nested hnested hsource
    exact ih hnext hnextSatisfiable

/-- **Satisfiable plans are kept.** In a store of dictionaries, with the default converters and any
options: when a mapping satisfies a shape, its adapter can be built, and it keeps the plan; so does
every adapter of a mapping that is reached from it through nested members. -/
theorem satisfiable_plan_is_kept (options : Options) (hσ : σ.HoldsDictionaries) (shape : Shape)
    (ref : MapRef)
    (h : (Inspector.inspect ⟨Registry.default, options⟩ σ shape (.map ref)).isSatisfiable = true) :
    ∃ a, build ⟨Registry.default, options⟩ shape (.map ref)
        (Inspector.inspect ⟨Registry.default, options⟩ σ shape (.map ref)) = .ok a ∧
      KeepsPlan σ a ref ∧ ∀ names b, Descends σ a names b → ∃ m, KeepsPlan σ b m := by
  refine ⟨_, build_eq_ok_iff.2 ⟨h, rfl⟩, ?_, fun names b hb => ?_⟩
  · exact keepsPlan_inspected hσ h Registry.isSound_default
  · exact hb.keepsPlan hσ Registry.isSound_default rfl h

/-- Three dictionaries of both comparisons, with a name in another case for each key, and a number
that is to be a text in the innermost one. -/
theorem satisfiable_plan_is_kept_innermost :
    let σ := Store.nestedDictionaries
    let i : Inspector := ⟨Registry.default, { fuzzy := true }⟩
    let number : Shape := ⟨0, "Number", [⟨"ID", .property .text false, false⟩]⟩
    let middle : Shape := ⟨1, "Middle", [⟨"B", .property (.shape number) false, false⟩]⟩
    let outer : Shape := ⟨2, "Outer", [⟨"A", .property (.shape middle) false, false⟩]⟩
    let plan := i.inspect σ outer (.map (.cell 2))
    σ.HoldsDictionaries ∧ plan.isSatisfiable = true ∧
      ∃ a b, build i outer (.map (.cell 2)) plan = .ok a ∧ KeepsPlan σ a (.cell 2) ∧
        Descends σ a ["A", "B"] b ∧ (∃ m, KeepsPlan σ b m) ∧
        b.plan.resolution? "ID" = some (.convertible "Id" .integer .text) := by
  intro σ i number middle outer plan
  have hσ : σ.HoldsDictionaries := Store.nestedDictionaries_holdsDictionaries
  have hplan : plan.isSatisfiable = true := by decide +kernel
  obtain ⟨a, ha, hkeeps, hbelow⟩ :=
    satisfiable_plan_is_kept { fuzzy := true } hσ outer (.cell 2) hplan
  obtain ⟨-, rfl⟩ := build_eq_ok_iff.1 ha
  let innermost := inspected i σ number (.map (.view none (.cell 0) .ignoreCase))
  have hfirst : (inspected i σ outer (.map (.cell 2))).nested σ "A" =
      .ok (inspected i σ middle (.map (.cell 1))) := by with_unfolding_all rfl
  have hsecond : (inspected i σ middle (.map (.cell 1))).nested σ "B" = .ok innermost := by
    with_unfolding_all rfl
  have hdescends : Descends σ (inspected i σ outer (.map (.cell 2))) ["A", "B"] innermost :=
    .step hfirst rfl (.step hsecond rfl (.here innermost))
  exact ⟨hσ, hplan, _, _, ha, hkeeps, hdescends, hbelow _ _ hdescends, by with_unfolding_all rfl⟩

end Adapter

end DuckTyping
