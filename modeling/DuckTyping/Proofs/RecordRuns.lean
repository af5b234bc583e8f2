import DuckTyping.Proofs.AdapterWrites

set_option autoImplicit false

/-!
# The life of a record object

Fields are written from outside and by the bodies of methods, under the same checks. Whatever is
written and called, and in whatever order: the declarations of an object stay, and so do the values
of its fields without a setter. Every field that was declared therefore always holds a value that
fits the type declared for it.
-/

namespace DuckTyping

/-- What may be done with a record object. -/
inductive RecordCall where
  | set (name : String) (v : Value)
  | invoke (name : String) (args : List Value)

namespace RecordObject

/-- The object after a call. A write that is refused leaves it as it is; a method leaves what its
body wrote. -/
def after (r : RecordObject) : RecordCall → RecordObject
  | .set name v =>
    match r.set name v with
    | .ok written => written
    | .error _ => r
  | .invoke name args => (r.invoke name args).2

/-- The object after some calls, one after another. -/
def afterAll (r : RecordObject) (calls : List RecordCall) : RecordObject := calls.foldl after r

variable {r r' : RecordObject} {name : String}

/-! ## Fields -/

theorem member?_of_mem {m : RecordMember} (h : m ∈ r.members) : r.member? m.name = some m := by
  cases hfound : r.member? m.name with
  | none =>
    have hno := List.find?_eq_none.1 hfound m h
    simp at hno
  | some other =>
    have hname := List.find?_some hfound
    rw [eq_of_name_eq r.names_nodup (List.mem_of_find?_eq_some hfound) h (beq_iff_eq.1 hname)]

theorem field?_eq_some_iff {v : Value} :
    r.field? name = some v ↔ ∃ type writable, .field name type writable v ∈ r.members := by
  constructor
  · intro h
    unfold field? at h
    split at h
    · rename_i stored type writable value hfound
      cases h
      have hname : stored = name := by
        have heq := List.find?_some hfound
        exact beq_iff_eq.1 heq
      exact ⟨type, writable, hname ▸ List.mem_of_find?_eq_some hfound⟩
    · cases h
  · rintro ⟨type, writable, hmem⟩
    have hfound : r.member? name = some (.field name type writable v) := member?_of_mem hmem
    rw [field?, hfound]

theorem exists_field_of_mem_schema {type : ValueType} {writable optional : Bool}
    (h : ⟨name, .property type writable, optional⟩ ∈ r.schema.members) :
    ∃ v, r.get name = .ok v ∧ v.conformsTo type = true := by
  obtain ⟨m, hm, hdeclaration⟩ := List.mem_map.1 h
  cases m with
  | method name signature body => cases hdeclaration
  | field name type writable v =>
    cases hdeclaration
    refine ⟨v, ?_, r.typed _ hm⟩
    rw [get, field?_eq_some_iff.2 ⟨type, writable, hm⟩]

/-! ## What a call keeps -/

/-- The second object is a later state of the first: its members are declared as they were, fields
without a setter hold what they held, and methods have the bodies that they had. -/
structure Evolves (r r' : RecordObject) : Prop where
  serial : r'.serial = r.serial
  typeName : r'.typeName = r.typeName
  declarations : r'.members.map RecordMember.declaration = r.members.map RecordMember.declaration
  constant : ∀ name type v, .field name type false v ∈ r.members →
    .field name type false v ∈ r'.members
  methods : ∀ name signature body, .method name signature body ∈ r.members →
    .method name signature body ∈ r'.members

theorem Evolves.refl (r : RecordObject) : r.Evolves r :=
  ⟨rfl, rfl, rfl, fun _ _ _ h => h, fun _ _ _ h => h⟩

theorem Evolves.trans {r₁ r₂ r₃ : RecordObject} (h : r₁.Evolves r₂) (h' : r₂.Evolves r₃) :
    r₁.Evolves r₃ where
  serial := h'.serial.trans h.serial
  typeName := h'.typeName.trans h.typeName
  declarations := h'.declarations.trans h.declarations
  constant := fun name type v hmem => h'.constant name type v (h.constant name type v hmem)
  methods := fun name signature body hmem =>
    h'.methods name signature body (h.methods name signature body hmem)

theorem Evolves.schema_eq (h : r.Evolves r') : r'.schema = r.schema := by
  rw [schema, schema, h.serial, h.typeName, h.declarations]

/-- A write keeps to the declarations. -/
theorem evolves_of_set {v : Value} (h : r.set name v = .ok r') : r.Evolves r' := by
  have hwrites := writesField_of_set h
  refine ⟨hwrites.serial, hwrites.typeName, ?_, fun other otherType value hmem => ?_,
    fun other signature body hmem => ?_⟩
  · obtain ⟨before, type, old, later, hbefore, hafter⟩ := hwrites.members
    rw [hbefore, hafter]
    simp [RecordMember.declaration]
  · exact hwrites.mem_of_ne hmem (by simp)
  · exact hwrites.mem_of_ne hmem (by simp)

/-- So does the body of a method. -/
theorem evolves_run (body : Script) (r : RecordObject) : r.Evolves (r.run body).2 := by
  induction body generalizing r with
  | done result => exact .refl r
  | readField name next ih => exact ih (r.field? name) r
  | writeField name v next ih =>
    rw [run]
    cases hset : r.set name v with
    | ok written => exact (evolves_of_set hset).trans (ih (.ok ()) written)
    | error e => exact ih (.error e) r

/-- A call keeps to the declarations. -/
theorem evolves_after (r : RecordObject) (call : RecordCall) : r.Evolves (r.after call) := by
  cases call with
  | set name v =>
    rw [after]
    cases hset : r.set name v with
    | ok written => exact evolves_of_set hset
    | error e => exact .refl r
  | invoke name args =>
    rw [after, invoke]
    split
    · split
      · exact .refl r
      · split
        · exact .refl r
        · exact evolves_run _ r
    · exact .refl r

/-- So do any number of calls. -/
theorem evolves_afterAll (r : RecordObject) (calls : List RecordCall) :
    r.Evolves (r.afterAll calls) := by
  induction calls generalizing r with
  | nil => exact .refl r
  | cons call rest ih => exact (evolves_after r call).trans (ih (r.after call))

/-! ## What an object keeps of its declaration -/

/-- The object shows the members that it was declared with and has the fields among them, each with
a value that fits; a field without a setter has the value that it was declared with. -/
structure KeepsDeclaration (r : RecordObject) (serial : Nat) (typeName : String)
    (members : List RecordMember) : Prop where
  schema : r.schema = ⟨serial, typeName, members.map RecordMember.declaration⟩
  fields : ∀ name, (r.field? name).isSome = true ↔
    ∃ type writable v, .field name type writable v ∈ members
  fits : ∀ name type writable initial, .field name type writable initial ∈ members →
    ∃ v, r.get name = .ok v ∧ (v.isNull = true ∨ v.conformsTo type = true)
  constant : ∀ name type v, .field name type false v ∈ members → r.get name = .ok v

theorem eq_of_declare {serial : Nat} {typeName : String} {members : List RecordMember}
    (h : declare serial typeName members = .ok r) :
    r.serial = serial ∧ r.typeName = typeName ∧ r.members = members := by
  unfold declare at h
  split at h
  · cases h
  · split at h
    · cases h
    · cases h
      exact ⟨rfl, rfl, rfl⟩

/-- A later state of an object keeps what was declared. -/
theorem Evolves.keepsDeclaration {serial : Nat} {typeName : String} {members : List RecordMember}
    (h : r.Evolves r') (hdeclare : declare serial typeName members = .ok r) :
    r'.KeepsDeclaration serial typeName members := by
  obtain ⟨rfl, rfl, rfl⟩ := eq_of_declare hdeclare
  have hfits : ∀ name type writable initial, .field name type writable initial ∈ r.members →
      ∃ v, r'.get name = .ok v ∧ v.conformsTo type = true := by
    intro name type writable initial hmem
    have hdeclared := List.mem_map_of_mem (f := RecordMember.declaration) hmem
    rw [← h.declarations] at hdeclared
    exact exists_field_of_mem_schema hdeclared
  refine ⟨h.schema_eq, fun name => ⟨fun hsome => ?_, fun ⟨type, writable, initial, hmem⟩ => ?_⟩,
    fun name type writable initial hmem => ?_, fun name type v hmem => ?_⟩
  · obtain ⟨v, hv⟩ := Option.isSome_iff_exists.1 hsome
    obtain ⟨type, writable, hmem⟩ := field?_eq_some_iff.1 hv
    have hdeclared := List.mem_map_of_mem (f := RecordMember.declaration) hmem
    rw [h.declarations] at hdeclared
    obtain ⟨m, hm, hdeclaration⟩ := List.mem_map.1 hdeclared
    cases m with
    | method name signature body => cases hdeclaration
    | field name type writable initial =>
      cases hdeclaration
      exact ⟨type, writable, initial, hm⟩
  · obtain ⟨v, hv, _⟩ := hfits name type writable initial hmem
    unfold get at hv
    split at hv
    · rename_i hfield
      rw [hfield]
      rfl
    · cases hv
  · obtain ⟨v, hv, hfit⟩ := hfits name type writable initial hmem
    exact ⟨v, hv, .inr hfit⟩
  · rw [get, field?_eq_some_iff.2 ⟨type, false, h.constant name type v hmem⟩]

end RecordObject

end DuckTyping
