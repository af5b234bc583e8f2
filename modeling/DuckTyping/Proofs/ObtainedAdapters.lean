import DuckTyping.Adapter.Adapter
import DuckTyping.Proofs.PlanMemo
import Mathlib.Data.List.Basic

set_option autoImplicit false

/-!
# Adapters as they are obtained

An adapter comes from a typer, or from another adapter of which it is the nested one. Either way its
plan leaves no member unresolved, so what it offers can be read off the entries of the plan one by
one. The plan was made by inspection: of the very shape and source of the adapter, or, where a typer
remembered one, of a shape and a schema that are the same.
-/

namespace DuckTyping

/-! ## What a plan offers -/

theorem Accessor.isSome_ofResolution? (r : Resolution) :
    (Accessor.ofResolution? r).isSome = !r.isUnresolved := by
  cases r <;> rfl

/-- What an entry offers. An unresolved one offers nothing; it does not occur where this is used. -/
def PlanEntry.capability (e : PlanEntry) : Capability :=
  ⟨e.member, (Accessor.ofResolution? e.resolution).getD .absent⟩

namespace Plan

/-- The entry for the member of this name. -/
def entryFor? (p : Plan) (name : String) : Option PlanEntry :=
  p.entries.find? (·.member.name == name)

theorem resolution?_eq_map_entryFor? (p : Plan) (name : String) :
    p.resolution? name = (p.entryFor? name).map (·.resolution) := rfl

theorem mem_of_entryFor? {p : Plan} {name : String} {e : PlanEntry}
    (h : p.entryFor? name = some e) : e ∈ p.entries ∧ e.member.name = name := by
  have hname := List.find?_some h
  exact ⟨List.mem_of_find?_eq_some h, beq_iff_eq.1 hname⟩

theorem isUnresolved_of_mem {p : Plan} (h : p.isSatisfiable = true) {e : PlanEntry}
    (he : e ∈ p.entries) : e.resolution.isUnresolved = false := by
  rw [isSatisfiable, Bool.not_eq_true', List.any_eq_false] at h
  exact Bool.eq_false_iff.2 (h e he)

end Plan

namespace Adapter

variable {a : Adapter} {name : String} {e : PlanEntry}

theorem capabilities_eq_map (h : a.plan.isSatisfiable = true) :
    a.capabilities = a.plan.entries.map PlanEntry.capability := by
  refine List.filterMap_eq_map_iff_forall_eq_some.2 fun e he => ?_
  have hsome := Accessor.isSome_ofResolution? e.resolution
  rw [Plan.isUnresolved_of_mem h he] at hsome
  obtain ⟨accessor, haccessor⟩ := Option.isSome_iff_exists.1 hsome
  simp [PlanEntry.capability, haccessor]

theorem capability_of_entryFor? (h : a.plan.isSatisfiable = true)
    (he : a.plan.entryFor? name = some e) : a.capability name = .ok e.capability := by
  have hfound : a.capabilities.find? (·.member.name == name) = some e.capability := by
    rw [capabilities_eq_map h, List.find?_map]
    exact congrArg (Option.map PlanEntry.capability) he
  rw [capability, hfound]

theorem capability_of_entryFor?_eq_none (h : a.plan.isSatisfiable = true)
    (he : a.plan.entryFor? name = none) :
    a.capability name = .error (.unknownMember a.shape.name name) := by
  have hfound : a.capabilities.find? (·.member.name == name) = none := by
    rw [capabilities_eq_map h, List.find?_map]
    exact congrArg (Option.map PlanEntry.capability) he
  rw [capability, hfound]

theorem property_of_entryFor? (h : a.plan.isSatisfiable = true)
    (he : a.plan.entryFor? name = some e) (hproperty : e.member.isProperty = true) :
    a.property name = .ok e.capability := by
  have hmember : e.capability.member.isProperty = true := hproperty
  rw [property, capability_of_entryFor? h he]
  exact if_pos hmember

theorem exists_entryFor?_of_property (h : a.plan.isSatisfiable = true) {c : Capability}
    (hc : a.property name = .ok c) :
    ∃ e, a.plan.entryFor? name = some e ∧ c = e.capability ∧ e.member.isProperty = true := by
  cases he : a.plan.entryFor? name with
  | none =>
    rw [property, capability_of_entryFor?_eq_none h he] at hc
    cases hc
  | some e =>
    rw [property, capability_of_entryFor? h he] at hc
    change (if e.member.isProperty = true then Except.ok e.capability
      else Except.error (AdaptError.wrongMemberKind name .property)) = .ok c at hc
    split at hc
    · rename_i hproperty
      exact ⟨e, rfl, (Except.ok.inj hc).symm, hproperty⟩
    · cases hc

theorem exists_of_bind_eq_ok {ε α β : Type} {x : Except ε α} {f : α → Except ε β} {b : β}
    (h : x.bind f = .ok b) : ∃ v, x = .ok v ∧ f v = .ok b := by
  cases x with
  | error e => cases h
  | ok v => exact ⟨v, rfl, h⟩

/-! ## How adapters are obtained -/

theorem build_eq_ok_iff {i : Inspector} {shape : Shape} {source : Source} {plan : Plan} :
    build i shape source plan = .ok a ↔
      plan.isSatisfiable = true ∧ a = ⟨i, shape, source, plan⟩ := by
  unfold build
  by_cases h : plan.isSatisfiable = true
  · rw [if_pos h]
    exact ⟨fun heq => ⟨h, (Except.ok.inj heq).symm⟩, fun heq => congrArg _ heq.2.symm⟩
  · rw [if_neg h]
    constructor
    · intro heq
      cases heq
    · intro heq
      exact absurd heq.1 h

theorem tryAdapt_eq_build (t : Typer) (σ : Store) (shape : Shape) (source : Source) :
    (t.tryAdapt σ shape source).1 =
      build t.inspector shape source (t.request σ shape source).1.plan := rfl

/-- A nested adapter is that of the mapping or object that is read, for the shape of the member. -/
theorem exists_of_nested_eq_ok {σ : Store} {b : Adapter} (h : a.nested σ name = .ok b) :
    ∃ c s v source, a.property name = .ok c ∧ c.member.valueType = .shape s ∧
      a.read σ name = .ok v ∧ Source.ofValue? v = some source ∧
      (a.inspector.inspect σ s source).isSatisfiable = true ∧
      b = ⟨a.inspector, s, source, a.inspector.inspect σ s source⟩ := by
  unfold nested at h
  cases hc : a.property name with
  | error e =>
    rw [hc] at h
    cases h
  | ok c =>
    rw [hc] at h
    simp only [bind, Except.bind] at h
    split at h
    · rename_i s hs
      cases hv : a.read σ name with
      | error e =>
        rw [hv] at h
        cases h
      | ok v =>
        rw [hv] at h
        simp only at h
        split at h
        · rename_i source hsource
          obtain ⟨hsatisfiable, rfl⟩ := build_eq_ok_iff.1 h
          exact ⟨c, s, v, source, rfl, hs, rfl, hsource, hsatisfiable, rfl⟩
        · cases h
    · cases h

/-- Adapters that a typer with this inspector handed out at some time of its life, and the nested
ones of such adapters. -/
inductive Obtained (i : Inspector) : Adapter → Prop
  | adapted {a : Adapter} (calls : List TyperCall) (σ : Store) (shape : Shape) (source : Source)
      (h : ((Typer.afterAll { inspector := i } calls).tryAdapt σ shape source).1 = .ok a) :
      Obtained i a
  | nested {a b : Adapter} (σ : Store) (name : String) (ha : Obtained i a)
      (h : a.nested σ name = .ok b) : Obtained i b

/-- The plan of the adapter is satisfiable, and inspection made it: for the shape and the source of
the adapter as they were at some time, or for a shape and a schema that are the same. -/
structure IsPlanned (i : Inspector) (a : Adapter) : Prop where
  inspector : a.inspector = i
  isSatisfiable : a.plan.isSatisfiable = true
  made : ∃ σ : Store, a.plan = i.inspect σ a.shape a.source ∨
    ∃ o shape schema, a.source = .object o ∧ shape.same a.shape = true ∧
      schema.same (σ.schema o) = true ∧ a.plan = i.inspectSchema shape schema

/-- However an adapter was obtained, inspection made its plan. -/
theorem Obtained.isPlanned {i : Inspector} (h : Obtained i a) : a.IsPlanned i := by
  induction h with
  | @adapted a calls σ shape source h =>
    obtain ⟨hsound, hinspector⟩ := Typer.memoSound_of_history i calls
    generalize Typer.afterAll { inspector := i } calls = t at h hsound hinspector
    rw [tryAdapt_eq_build] at h
    obtain ⟨hsatisfiable, rfl⟩ := build_eq_ok_iff.1 h
    refine ⟨hinspector, hsatisfiable, σ, ?_⟩
    rw [← hinspector]
    cases source with
    | map m => exact .inl rfl
    | object o =>
      obtain ⟨shape', schema, hshape, hschema, hplan⟩ :=
        Typer.exists_plan_of_request hsound σ shape o
      exact .inr ⟨o, shape', schema, rfl, hshape, hschema, hplan⟩
  | @nested a b σ name ha h ih =>
    obtain ⟨_, s, _, source, _, _, _, _, hsatisfiable, rfl⟩ := exists_of_nested_eq_ok h
    refine ⟨ih.inspector, hsatisfiable, σ, .inl ?_⟩
    simp only
    rw [ih.inspector]

/-! ## Reading by entries -/

section Reading

variable {key : String} (h : a.plan.isSatisfiable = true) (he : a.plan.entryFor? name = some e)
  (hproperty : e.member.isProperty = true) (σ : Store)

include h he hproperty

theorem read_of_direct (hr : e.resolution = .direct key) :
    a.read σ name = (a.fetch σ key).bind fun v => a.coerce v e.member.valueType := by
  rw [read, property_of_entryFor? h he hproperty]
  simp only [PlanEntry.capability, hr]
  rfl

theorem read_of_convertible {stored declared : ValueType}
    (hr : e.resolution = .convertible key stored declared) :
    a.read σ name = (a.fetch σ key).bind fun v => a.convert v e.member.valueType := by
  rw [read, property_of_entryFor? h he hproperty]
  simp only [PlanEntry.capability, hr]
  rfl

theorem read_of_nested (hr : e.resolution = .nested key) : a.read σ name = a.fetch σ key := by
  rw [read, property_of_entryFor? h he hproperty]
  simp only [PlanEntry.capability, hr]
  rfl

theorem read_of_absent (hr : e.resolution = .absent) : a.read σ name = .ok .null := by
  rw [read, property_of_entryFor? h he hproperty]
  simp only [PlanEntry.capability, hr]
  rfl

theorem read_of_method {signature : MethodSignature} (hr : e.resolution = .method key signature) :
    a.read σ name = .error (.wrongMemberKind name .property) := by
  rw [read, property_of_entryFor? h he hproperty]
  simp only [PlanEntry.capability, hr]
  rfl

end Reading

/-! ## Writing -/

/-- What a write does with a value of the declared type, by the way to the member. -/
def place (a : Adapter) (σ : Store) (name : String) (c : Capability) (typed : Value) :
    Except AdaptError Store :=
  match c.accessor with
  | .direct member => a.deliver σ name member typed
  | .nested member => a.deliver σ name member typed
  | .convert member stored => (a.convert typed stored).bind (a.deliver σ name member)
  | .absent =>
    match a.source with
    | .map _ => a.deliver σ name c.member.name typed
    | .object o => .error (.notWritable name (.noSuchMember o.typeName))
  | .method _ => .error (.wrongMemberKind name .property)

/-- A write finds the property, sees whether it may be written, brings the value to its type, and
places it. -/
theorem write_eq (a : Adapter) (σ : Store) (name : String) (v : Value) :
    a.write σ name v = (a.property name).bind fun c =>
      if c.member.isWritable then
        (a.coerce v c.member.valueType).bind (a.place σ name c)
      else .error (.notWritable name (.declaredReadOnly a.shape.name)) := by
  unfold write
  cases a.property name with
  | error e => rfl
  | ok c =>
    simp only [bind, Except.bind]
    cases c.member.isWritable with
    | false => rfl
    | true =>
      simp only [Bool.not_true, Bool.false_eq_true, ↓reduceIte]
      cases a.coerce v c.member.valueType with
      | error e => rfl
      | ok typed =>
        obtain ⟨member, accessor⟩ := c
        cases accessor with
        | absent =>
          simp only [place]
          cases a.source <;> rfl
        | _ => rfl

variable {σ after : Store} {v typed : Value}

theorem exists_place_of_write (h : a.plan.isSatisfiable = true)
    (he : a.plan.entryFor? name = some e) (hwrite : a.write σ name v = .ok after) :
    e.member.isProperty = true ∧ ∃ typed, a.coerce v e.member.valueType = .ok typed ∧
      a.place σ name e.capability typed = .ok after := by
  rw [write_eq] at hwrite
  obtain ⟨c, hc, hwrite⟩ := exists_of_bind_eq_ok hwrite
  obtain ⟨e', he', rfl, hproperty⟩ := exists_entryFor?_of_property h hc
  obtain rfl : e' = e := Option.some.inj (he'.symm.trans he)
  refine ⟨hproperty, ?_⟩
  split at hwrite
  · exact exists_of_bind_eq_ok hwrite
  · cases hwrite

theorem write_eq_place (h : a.plan.isSatisfiable = true) (he : a.plan.entryFor? name = some e)
    (hproperty : e.member.isProperty = true) (hwritable : e.member.isWritable = true)
    (htyped : a.coerce v e.member.valueType = .ok typed) :
    a.write σ name v = a.place σ name e.capability typed := by
  have hplace : (a.coerce v e.member.valueType).bind (a.place σ name e.capability) =
      a.place σ name e.capability typed := congrArg (Except.bind · _) htyped
  rw [write_eq, property_of_entryFor? h he hproperty]
  exact (if_pos hwritable).trans hplace

theorem place_of_direct {key : String} (hr : e.resolution = .direct key) :
    a.place σ name e.capability v = a.deliver σ name key v := by
  rw [PlanEntry.capability, hr]
  rfl

theorem place_of_convertible {key : String} {stored declared : ValueType}
    (hr : e.resolution = .convertible key stored declared) :
    a.place σ name e.capability v = (a.convert v stored).bind (a.deliver σ name key) := by
  rw [PlanEntry.capability, hr]
  rfl

theorem place_of_absent {ref : MapRef} (hsource : a.source = .map ref)
    (hr : e.resolution = .absent) :
    a.place σ name e.capability v = a.deliver σ name e.member.name v := by
  rw [PlanEntry.capability, hr]
  simp only [place, Accessor.ofResolution?, Option.getD_some, hsource]

end Adapter

end DuckTyping
