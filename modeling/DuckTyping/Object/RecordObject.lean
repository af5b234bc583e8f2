import DuckTyping.Value.HostError

set_option autoImplicit false

/-!
# Record objects

An object whose fields and methods are declared when it is made. Its schema follows from its
members. It checks what is written to its fields and passed to its methods, so a field always holds
a value that fits its type; that is part of the type of record objects. The body of a method may
read the fields of its object and write them, under the same checks, before it ends with a result.
-/

namespace DuckTyping

/-- What the body of a method does. -/
inductive Script where
  /-- end with a result -/
  | done (result : Except HostError Value)
  /-- go on with the value of a field, if there is such a field -/
  | readField (name : String) (next : Option Value → Script)
  /-- write a field and go on with the outcome -/
  | writeField (name : String) (v : Value) (next : Except HostError Unit → Script)

/-- A member of a record object, with what stands behind it. -/
inductive RecordMember where
  | field (name : String) (type : ValueType) (writable : Bool) (value : Value)
  | method (name : String) (signature : MethodSignature) (body : List Value → Script)

namespace RecordMember

def name : RecordMember → String
  | .field name _ _ _ => name
  | .method name _ _ => name

/-- The member as the schema shows it. -/
def declaration : RecordMember → Member
  | .field name type writable _ => ⟨name, .property type writable, false⟩
  | .method name signature _ => ⟨name, .method signature, false⟩

/-- The value of a field fits its type. -/
def IsTyped : RecordMember → Prop
  | .field _ type _ value => value.conformsTo type = true
  | .method _ _ _ => True

/-- A field with another value. -/
def withValue (v : Value) : RecordMember → RecordMember
  | .field name type writable _ => .field name type writable v
  | m => m

@[simp] theorem declaration_name (m : RecordMember) : m.declaration.name = m.name := by
  cases m <;> rfl

@[simp] theorem withValue_name (v : Value) (m : RecordMember) : (m.withValue v).name = m.name := by
  cases m <;> rfl

@[simp] theorem withValue_declaration (v : Value) (m : RecordMember) :
    (m.withValue v).declaration = m.declaration := by
  cases m <;> rfl

end RecordMember

/-- An object made of declared fields and methods. -/
structure RecordObject where
  serial : Nat
  typeName : String
  members : List RecordMember
  names_nodup : (members.map RecordMember.name).Nodup
  typed : ∀ m ∈ members, m.IsTyped

namespace RecordObject

/-- The first field whose initial value does not fit its type. -/
def mistyped? : List RecordMember → Option HostError
  | [] => none
  | .field _ type _ value :: rest =>
    if value.conformsTo type then mistyped? rest
    else some (.typeMismatch type value.valueType)
  | .method _ _ _ :: rest => mistyped? rest

theorem typed_of_mistyped?_eq_none {members : List RecordMember} (h : mistyped? members = none) :
    ∀ m ∈ members, m.IsTyped := by
  induction members with
  | nil => simp
  | cons m rest ih =>
    cases m with
    | field name type writable value =>
      by_cases hc : value.conformsTo type = true
      · simp only [mistyped?, hc, if_true] at h
        simp only [List.mem_cons, forall_eq_or_imp]
        exact ⟨hc, ih h⟩
      · simp [mistyped?, hc] at h
    | method name signature body =>
      simp only [List.mem_cons, forall_eq_or_imp]
      exact ⟨trivial, ih h⟩

/-- Make an object: members have distinct names, and every field a value that fits its type. -/
def declare (serial : Nat) (typeName : String) (members : List RecordMember) :
    Except HostError RecordObject :=
  match hnames : Shape.faultAfter typeName [] (members.map RecordMember.declaration) with
  | some fault => .error (.undistinguished fault)
  | none => match htyped : mistyped? members with
    | some fault => .error fault
    | none => .ok
      { serial := serial
        typeName := typeName
        members := members
        names_nodup := by
          have := (Shape.faultAfter_eq_none_iff.1 hnames).1
          simpa [Function.comp_def] using this
        typed := typed_of_mistyped?_eq_none htyped }

/-- The members that an object shows, and their types. -/
def schema (o : RecordObject) : Shape :=
  ⟨o.serial, o.typeName, o.members.map RecordMember.declaration⟩

/-- The member of exactly this name. -/
def member? (o : RecordObject) (name : String) : Option RecordMember :=
  o.members.find? (·.name == name)

/-- The report that there is no such member. -/
def missing (o : RecordObject) (name : String) : HostError := .missingMember o.typeName name

/-- The value of a field. -/
def field? (o : RecordObject) (name : String) : Option Value :=
  match o.member? name with
  | some (.field _ _ _ value) => some value
  | _ => none

/-- Read a field. -/
def get (o : RecordObject) (name : String) : Except HostError Value :=
  match o.field? name with
  | some v => .ok v
  | none => .error (o.missing name)

/-- Members with distinct names are told apart by their names. -/
theorem eq_of_name_eq {members : List RecordMember} (hnd : (members.map RecordMember.name).Nodup)
    {a b : RecordMember} (ha : a ∈ members) (hb : b ∈ members) (h : a.name = b.name) : a = b := by
  induction members with
  | nil => simp at ha
  | cons m rest ih =>
    simp only [List.map_cons, List.nodup_cons, List.mem_map, not_exists, not_and] at hnd
    rcases List.mem_cons.1 ha with hma | har <;> rcases List.mem_cons.1 hb with hmb | hbr
    · rw [hma, hmb]
    · exact absurd (h ▸ hma ▸ rfl) (hnd.1 b hbr)
    · exact absurd (h.trans (hmb ▸ rfl)) (hnd.1 a har)
    · exact ih hnd.2 har hbr

/-- Give a field that is there a value that fits its type. -/
def store (o : RecordObject) (name : String) (type : ValueType) (writable : Bool) (old v : Value)
    (hmem : .field name type writable old ∈ o.members) (hfits : v.conformsTo type = true) :
    RecordObject :=
  { o with
    members := o.members.map fun m => if m.name = name then m.withValue v else m
    names_nodup := by
      have : (o.members.map fun m => if m.name = name then m.withValue v else m).map
          RecordMember.name = o.members.map RecordMember.name := by
        rw [List.map_map]
        refine List.map_congr_left fun m _ => ?_
        simp only [Function.comp_apply]
        split <;> simp
      rw [this]
      exact o.names_nodup
    typed := by
      intro m' hm'
      obtain ⟨m, hm, rfl⟩ := List.mem_map.1 hm'
      split
      · rename_i hname
        have : m = .field name type writable old :=
          eq_of_name_eq o.names_nodup hm hmem hname
        subst this
        exact hfits
      · exact o.typed m hm }

/-- Write a field: it has to be there, to be writable, and to take values of that type. -/
def set (o : RecordObject) (name : String) (v : Value) : Except HostError RecordObject :=
  match h : o.member? name with
  | some (.field stored type writable old) =>
    if writable then
      if hfits : v.conformsTo type = true then
        .ok (o.store stored type writable old v (List.mem_of_find?_eq_some h) hfits)
      else .error (.typeMismatch type v.valueType)
    else .error (.readOnly name)
  | _ => .error (o.missing name)

/-- Run the body of a method; what it wrote stays, whatever its result. -/
def run (o : RecordObject) : Script → Except HostError Value × RecordObject
  | .done result => (result, o)
  | .readField name next => o.run (next (o.field? name))
  | .writeField name v next =>
    match o.set name v with
    | .ok after => after.run (next (.ok ()))
    | .error e => o.run (next (.error e))

/-- The first argument that does not fit the type of its parameter. -/
def unfit? : List ValueType → List Value → Option HostError
  | param :: params, arg :: args =>
    if arg.conformsTo param then unfit? params args
    else some (.typeMismatch param arg.valueType)
  | _, _ => none

/-- Call a method: its arguments are counted, then checked in order, then the body runs. -/
def invoke (o : RecordObject) (name : String) (args : List Value) :
    Except HostError Value × RecordObject :=
  match o.member? name with
  | some (.method _ signature body) =>
    if signature.params.length ≠ args.length then
      (.error (.argumentCount name signature.params.length args.length), o)
    else match unfit? signature.params args with
      | some e => (.error e, o)
      | none => o.run (body args)
  | _ => (.error (o.missing name), o)

/-- The diagnostic form of an object. -/
def summary (o : RecordObject) : String :=
  "DynObject \x7b type_name: " ++ Text.quoted o.typeName ++ ", schema: " ++
    Text.quoted o.schema.render ++ " \x7d"

end RecordObject

end DuckTyping
