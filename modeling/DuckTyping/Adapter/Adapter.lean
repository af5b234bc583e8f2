import DuckTyping.Adapter.AdaptError
import DuckTyping.Plan.Inspection

set_option autoImplicit false

/-!
# Adapters

An adapter presents a source through a shape, as a plan lays down. It keeps nothing of the source
but the reference: every operation goes to the source as it is then. A mapping is seen with the
sensitivity of the plan.

What is read is checked against the declared type, and converted if it does not fit. What is written
is first brought to the declared type, then to the type that is stored; every check comes before the
write itself.
-/

namespace DuckTyping

/-- How a member is reached on the source. -/
inductive Accessor where
  | direct (source : String)
  | convert (source : String) (stored : ValueType)
  | nested (source : String)
  | method (source : String)
  | absent

/-- The way to a member, if the plan found one. -/
def Accessor.ofResolution? : Resolution → Option Accessor
  | .direct source => some (.direct source)
  | .convertible source stored _ => some (.convert source stored)
  | .nested source => some (.nested source)
  | .method source _ => some (.method source)
  | .absent => some .absent
  | .unresolved _ => none

/-- A member of the shape, and the way to it. -/
structure Capability where
  member : Member
  accessor : Accessor

/-- A source seen through a shape. -/
structure Adapter where
  inspector : Inspector
  shape : Shape
  source : Source
  plan : Plan

namespace Adapter

/-- Put a plan to use, if it leaves no member unresolved. -/
def build (inspector : Inspector) (shape : Shape) (source : Source) (plan : Plan) :
    Except AdaptError Adapter :=
  if plan.isSatisfiable then .ok ⟨inspector, shape, source, plan⟩
  else .error (.unsatisfiable shape.name plan.unresolved)

/-- The members that the adapter offers. -/
def capabilities (a : Adapter) : List Capability :=
  a.plan.entries.filterMap fun e => (Accessor.ofResolution? e.resolution).map (⟨e.member, ·⟩)

/-- The member of this name. -/
def capability (a : Adapter) (name : String) : Except AdaptError Capability :=
  match a.capabilities.find? (·.member.name == name) with
  | some c => .ok c
  | none => .error (.unknownMember a.shape.name name)

/-- The property of this name. -/
def property (a : Adapter) (name : String) : Except AdaptError Capability := do
  let c ← a.capability name
  if c.member.isProperty then return c else throw (.wrongMemberKind name .property)

/-- A mapping as the adapter sees it. -/
def view (a : Adapter) (m : MapRef) : View := ⟨m, .ofCaseSensitive a.plan.caseSensitive⟩

/-- The value of a key or member of the source. -/
def fetch (a : Adapter) (σ : Store) (member : String) : Except AdaptError Value :=
  match a.source with
  | .map m =>
    match (a.view m).lookUp? σ member with
    | some v => .ok v
    | none => .error (.host (.missingMember a.source.typeName member))
  | .object o =>
    match σ.readMember o member with
    | .ok v => .ok v
    | .error e => .error (.host e)

/-- A conversion as a step of an adapter. -/
def convert (a : Adapter) (v : Value) (target : ValueType) : Except AdaptError Value :=
  match a.inspector.registry.convert v target with
  | .ok w => .ok w
  | .error e => .error (.conversion e)

/-- Bring a value to a declared type, unless it fits already. -/
def coerce (a : Adapter) (v : Value) (declared : ValueType) : Except AdaptError Value :=
  if v.isNull || v.conformsTo declared then .ok v
  else if a.inspector.options.allowConversion then a.convert v declared
  else .error (.conversion (.noConverter v.valueType declared))

/-- Read a property. An optional member that the plan found absent reads as null. -/
def read (a : Adapter) (σ : Store) (name : String) : Except AdaptError Value := do
  let c ← a.property name
  match c.accessor with
  | .direct member => a.coerce (← a.fetch σ member) c.member.valueType
  | .nested member => a.fetch σ member
  | .convert member _ => a.convert (← a.fetch σ member) c.member.valueType
  | .absent => return .null
  | .method _ => throw (.wrongMemberKind name .property)

/-- The outcome of a write, where the source's word that it is read-only becomes a refusal. -/
def outcome (name : String) : Except HostError Store → Except AdaptError Store
  | .ok after => .ok after
  | .error (.readOnly _) => .error (.notWritable name .refusedBySource)
  | .error e => .error (.host e)

/-- Write a value of the stored type to a key or member of the source. -/
def deliver (a : Adapter) (σ : Store) (name member : String) (v : Value) :
    Except AdaptError Store :=
  match a.source with
  | .map m =>
    if σ.isReadOnly m then .error (.notWritable name .mappingReadOnly)
    else outcome name (σ.insert (a.view m).ref member v)
  | .object o =>
    if ((σ.schema o).member? member).any Member.isWritable then
      outcome name (σ.writeMember o member v)
    else .error (.notWritable name (.noSetter o.typeName member))

/-- Write a property. A mapping takes the key of an absent member; an object has no place for it. -/
def write (a : Adapter) (σ : Store) (name : String) (v : Value) : Except AdaptError Store := do
  let c ← a.property name
  if !c.member.isWritable then throw (.notWritable name (.declaredReadOnly a.shape.name))
  let typed ← a.coerce v c.member.valueType
  match c.accessor with
  | .direct member => a.deliver σ name member typed
  | .nested member => a.deliver σ name member typed
  | .convert member stored => a.deliver σ name member (← a.convert typed stored)
  | .absent =>
    match a.source with
    | .map _ => a.deliver σ name c.member.name typed
    | .object o => throw (.notWritable name (.noSuchMember o.typeName))
  | .method _ => throw (.wrongMemberKind name .property)

/-- The first argument, from this position on, that does not fit the type of its parameter. -/
def unfitFrom? (position : Nat) : List ValueType → List Value → Option CallMismatch
  | param :: params, arg :: args =>
    if arg.conformsTo param then unfitFrom? (position + 1) params args
    else some (.argument position param arg.valueType)
  | _, _ => none

/-- How arguments fail to match a signature: by their number, or else the first that does not fit.
-/
def mismatch? (signature : MethodSignature) (args : List Value) : Option CallMismatch :=
  if args.length ≠ signature.params.length then
    some (.count signature.params.length args.length)
  else unfitFrom? 0 signature.params args

/-- Call a method. The arguments are checked against the signature that the shape declares. -/
def call (a : Adapter) (σ : Store) (name : String) (args : List Value) :
    Except AdaptError Value × Store :=
  match a.capability name with
  | .error e => (.error e, σ)
  | .ok c =>
    match c.accessor, c.member.kind with
    | .method member, .method signature =>
      match mismatch? signature args with
      | some reason => (.error (.signatureMismatch name signature reason), σ)
      | none =>
        match a.source with
        | .object o =>
          match σ.invoke o member args with
          | (.ok v, after) => (.ok v, after)
          | (.error e, after) => (.error (.host e), after)
        | .map _ => (.error (.wrongMemberKind name .method), σ)
    | _, _ => (.error (.wrongMemberKind name .method), σ)

/-- The adapter of a member whose type is a shape, for the mapping or object that it holds now. -/
def nested (a : Adapter) (σ : Store) (name : String) : Except AdaptError Adapter := do
  let c ← a.property name
  match c.member.valueType with
  | .shape shape =>
    let v ← a.read σ name
    match Source.ofValue? v with
    | some source =>
      let plan := a.inspector.inspect σ shape source
      build a.inspector shape source plan
    | none => throw (.notNestable name v.valueType)
  | _ => throw (.wrongMemberKind name .shapeProperty)

/-- The adapter over its source, kept in the store. -/
def keep (a : Adapter) (σ : Store) : Adapter × Store :=
  match a.source with
  | .map m =>
    let (m, σ) := σ.keep m
    ({ a with source := .map m }, σ)
  | .object _ => (a, σ)

/-- The diagnostic form of an adapter over an object; of a mapping only its identity could be shown.
-/
def summary? (a : Adapter) : Option String :=
  match a.source with
  | .object o => some <|
    "Adapter \x7b shape: " ++ Text.quoted a.shape.name ++ ", source: Object(" ++ o.typeName ++
      "), members: " ++ Nat.repr a.capabilities.length ++ " \x7d"
  | .map _ => none

end Adapter

end DuckTyping
