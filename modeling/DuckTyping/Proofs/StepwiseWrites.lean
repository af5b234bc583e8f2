import DuckTyping.Proofs.ObtainedAdapters

set_option autoImplicit false

/-!
# Writes step by step

The operations of stores and adapters give the store after a write, or no store where it fails. A
host makes the same write in steps: it reads, checks, and changes one thing at a time, and what it
changed before a later step fails would stay changed. Here a write is spelled out in such steps,
each of which sees the store as the steps before have left it. They do exactly what the operations
say: every check comes before the first change, so a write that fails leaves the store as it was,
unless the host itself changes its mapping and then reports a failure.
-/

namespace DuckTyping

/-- Steps that read and change a store and may fail. A failure undoes nothing. -/
abbrev Steps (ε α : Type) : Type := ExceptT ε (StateM Store) α

/-- The outcome of a write, with the store that is left: the new one, or the old one if it failed.
-/
def settle {ε : Type} (σ : Store) : Except ε Store → Except ε Unit × Store
  | .ok after => (.ok (), after)
  | .error e => (.error e, σ)

namespace Steps

variable {ε ε' α β : Type}

/-- Make the steps in a store. -/
def perform (x : Steps ε α) (σ : Store) : Except ε α × Store := x.run.run σ

/-- A step that looks at nothing and ends as given. -/
def given (result : Except ε α) : Steps ε α := ExceptT.mk (pure result)

theorem perform_get_bind (f : Store → Steps ε α) (σ : Store) :
    (get >>= f).perform σ = (f σ).perform σ := rfl

theorem perform_adapt (f : ε → ε') (x : Steps ε α) (σ : Store) :
    Steps.perform (ExceptT.adapt f x) σ = ((x.perform σ).1.mapError f, (x.perform σ).2) := rfl

theorem perform_given_bind (result : Except ε α) (f : α → Steps ε β) (σ : Store) :
    (given result >>= f).perform σ =
      match result with
      | .ok v => (f v).perform σ
      | .error e => (.error e, σ) := by
  cases result <;> rfl

/-- Behind a check, steps that settle as an operation does settle as it does behind the check. -/
theorem settles_behind_check {result : Except ε α} {f : α → Steps ε Unit}
    {g : α → Except ε Store} {σ : Store} (h : ∀ v, (f v).perform σ = settle σ (g v)) :
    (given result >>= f).perform σ = settle σ (result.bind g) := by
  rw [perform_given_bind]
  cases result with
  | error e => rfl
  | ok v => exact h v

end Steps

open Steps

/-! ## Mappings and objects -/

namespace RecordObject

variable {r : RecordObject} {name : String}

theorem set_of_field {stored : String} {type : ValueType} {writable : Bool} {old : Value}
    (h : r.member? name = some (.field stored type writable old)) (v : Value) :
    r.set name v =
      if writable then
        if hfits : v.conformsTo type = true then
          .ok (r.store stored type writable old v (List.mem_of_find?_eq_some h) hfits)
        else .error (.typeMismatch type v.valueType)
      else .error (.readOnly name) := by
  unfold set
  split
  · rename_i hfound
    rw [h] at hfound
    cases hfound
    rfl
  · rename_i hother
    exact absurd h (hother stored type writable old)

theorem set_of_no_field
    (h : ∀ stored type writable old, r.member? name ≠ some (.field stored type writable old))
    (v : Value) : r.set name v = .error (r.missing name) := by
  unfold set
  split
  · rename_i hfound
    exact absurd hfound (h _ _ _ _)
  · rfl

end RecordObject

namespace Store

/-- Insert or replace a value, step by step. Views resolve the key one after the other; the mapping
behind them checks, and then changes. -/
def insertSteps : MapRef → String → Value → Steps HostError Unit
  | .cell address, key, v => do
    match (← get).mapping address with
    | .dictionary d =>
      given (d.checkWritable key)
      modify fun σ => σ.setMapping address (.dictionary (d.put key v))
    | .foreign f =>
      let (outcome, after) := f.insert key v
      modify fun σ => σ.setMapping address (.foreign after)
      given outcome
  | .view _ inner comparison, key, v => do
    let stored := ((← get).resolveKey? inner comparison key).getD key
    insertSteps inner stored v

/-- Write a property of an object, step by step. A record object makes its checks one by one before
it changes the field. -/
def writeMemberSteps (o : ObjectRef) (name : String) (v : Value) : Steps HostError Unit := do
  match (← get).object o.address with
  | .record r =>
    match h : r.member? name with
    | some (.field stored type writable old) =>
      if writable then
        if hfits : v.conformsTo type = true then
          let after := r.store stored type writable old v (List.mem_of_find?_eq_some h) hfits
          modify fun σ => σ.setObject o.address (.record after)
        else throw (.typeMismatch type v.valueType)
      else throw (.readOnly name)
    | _ => throw (r.missing name)
  | .foreign f =>
    let after ← given (f.set o.typeName name v)
    modify fun σ => σ.setObject o.address (.foreign after)

/-- An insertion in steps returns and leaves what an insertion does. -/
theorem perform_insertSteps (m : MapRef) (key : String) (v : Value) (σ : Store) :
    (insertSteps m key v).perform σ = σ.put m key v := by
  induction m generalizing key with
  | cell address =>
    rw [insertSteps, perform_get_bind]
    cases hm : σ.mapping address with
    | dictionary d =>
      rw [put_dictionary hm, Dictionary.insert]
      simp only
      rw [perform_given_bind]
      cases d.checkWritable key <;> rfl
    | foreign f =>
      rw [put, hm]
      rfl
  | view tag inner c ih =>
    rw [insertSteps, perform_get_bind, put]
    exact ih _

/-- An insertion into the mapping that fails leaves the store as it was. -/
def FailsCleanly (σ : Store) (m : MapRef) : Prop :=
  ∀ key v, σ.put m key v = settle σ (σ.insert m key v)

theorem failsCleanly_dictionary {σ : Store} {address : Nat} {d : Dictionary}
    (hd : σ.mapping address = .dictionary d) : σ.FailsCleanly (.cell address) := by
  intro key v
  rw [insert, put_dictionary hd]
  cases d.insert key v <;> rfl

theorem FailsCleanly.through {σ : Store} {m : MapRef} (h : σ.FailsCleanly m) (tag : Option Nat)
    (c : KeyComparison) : σ.FailsCleanly (.view tag m c) :=
  fun key v => h ((σ.resolveKey? m c key).getD key) v

theorem perform_writeMemberSteps (o : ObjectRef) (name : String) (v : Value) (σ : Store) :
    (writeMemberSteps o name v).perform σ = settle σ (σ.writeMember o name v) := by
  rw [writeMemberSteps, perform_get_bind, writeMember]
  cases σ.object o.address with
  | record r =>
    simp only
    split
    · rename_i stored type writable old hfield
      rw [RecordObject.set_of_field hfield]
      split
      · split <;> rfl
      · rfl
    · rename_i hother
      rw [RecordObject.set_of_no_field hother]
      rfl
  | foreign f =>
    simp only
    rw [perform_given_bind]
    cases f.set o.typeName name v <;> rfl

end Store

namespace Adapter

/-! ## Adapters -/

/-- What an adapter reports when the source fails to write. -/
def hostFailure (name : String) : HostError → AdaptError
  | .readOnly _ => .notWritable name .refusedBySource
  | e => .host e

theorem outcome_eq_mapError (name : String) (result : Except HostError Store) :
    outcome name result = result.mapError (hostFailure name) := by
  cases result with
  | ok after => rfl
  | error e => cases e <;> rfl

/-- Deliver a value to the source, step by step. -/
def deliverSteps (a : Adapter) (name member : String) (v : Value) : Steps AdaptError Unit := do
  match a.source with
  | .map m =>
    if (← get).isReadOnly m then throw (.notWritable name .mappingReadOnly)
    else ExceptT.adapt (hostFailure name) (Store.insertSteps (a.view m).ref member v)
  | .object o =>
    if (((← get).schema o).member? member).any Member.isWritable then
      ExceptT.adapt (hostFailure name) (Store.writeMemberSteps o member v)
    else throw (.notWritable name (.noSetter o.typeName member))

/-- Place a value of the declared type, step by step. -/
def placeSteps (a : Adapter) (name : String) (c : Capability) (typed : Value) :
    Steps AdaptError Unit := do
  match c.accessor with
  | .direct member => a.deliverSteps name member typed
  | .nested member => a.deliverSteps name member typed
  | .convert member stored =>
    let value ← given (a.convert typed stored)
    a.deliverSteps name member value
  | .absent =>
    match a.source with
    | .map _ => a.deliverSteps name c.member.name typed
    | .object o => throw (.notWritable name (.noSuchMember o.typeName))
  | .method _ => throw (.wrongMemberKind name .property)

/-- Write a property, step by step. -/
def writeSteps (a : Adapter) (name : String) (v : Value) : Steps AdaptError Unit := do
  let c ← given (a.property name)
  if c.member.isWritable then
    let typed ← given (a.coerce v c.member.valueType)
    a.placeSteps name c typed
  else throw (.notWritable name (.declaredReadOnly a.shape.name))

variable (a : Adapter) (σ : Store) (name : String)

theorem perform_adapt_hostFailure {x : Steps HostError Unit} {result : Except HostError Store}
    (h : x.perform σ = settle σ result) :
    Steps.perform (ExceptT.adapt (hostFailure name) x) σ = settle σ (outcome name result) := by
  rw [perform_adapt, h, outcome_eq_mapError]
  cases result <;> rfl

variable {a σ}

theorem perform_deliverSteps (hclean : ∀ m, a.source = .map m → σ.FailsCleanly m)
    (member : String) (v : Value) :
    (a.deliverSteps name member v).perform σ = settle σ (a.deliver σ name member v) := by
  unfold deliverSteps deliver
  cases hsource : a.source with
  | map m =>
    simp only
    rw [perform_get_bind]
    split
    · rfl
    · have hsettles := (hclean m hsource).through none (.ofCaseSensitive a.plan.caseSensitive)
      exact perform_adapt_hostFailure σ name
        ((Store.perform_insertSteps _ member v σ).trans (hsettles member v))
  | object o =>
    simp only
    rw [perform_get_bind]
    split
    · exact perform_adapt_hostFailure σ name (Store.perform_writeMemberSteps o member v σ)
    · rfl

theorem perform_placeSteps (hclean : ∀ m, a.source = .map m → σ.FailsCleanly m) (c : Capability)
    (typed : Value) :
    (a.placeSteps name c typed).perform σ = settle σ (a.place σ name c typed) := by
  unfold placeSteps place
  cases c.accessor with
  | direct member => exact perform_deliverSteps name hclean member typed
  | nested member => exact perform_deliverSteps name hclean member typed
  | convert member stored =>
    exact settles_behind_check fun value => perform_deliverSteps name hclean member value
  | method member => rfl
  | absent =>
    simp only
    cases hsource : a.source with
    | map m => exact perform_deliverSteps name hclean _ typed
    | object o => rfl

/-- A write in steps does what a write does: it ends in the same store if it succeeds, and if it
fails, with the same report, the store is still the one it began with. -/
theorem perform_writeSteps (hclean : ∀ m, a.source = .map m → σ.FailsCleanly m) (v : Value) :
    (a.writeSteps name v).perform σ = settle σ (a.write σ name v) := by
  rw [writeSteps, write_eq]
  refine settles_behind_check fun c => ?_
  split
  · exact settles_behind_check fun typed => perform_placeSteps name hclean c typed
  · rfl

end Adapter

end DuckTyping
