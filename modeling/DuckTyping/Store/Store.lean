import DuckTyping.Mapping.Mapping
import DuckTyping.Object.ForeignObject
import DuckTyping.Object.RecordObject

set_option autoImplicit false

/-!
# Stores

A store holds the mappings and objects that references lead to, each at an address of its own.
Nothing is ever moved or removed, so an address stays good. The store also counts the tags it has
given to views.
-/

namespace DuckTyping

/-- An object of either kind. -/
inductive HostObject where
  | record (o : RecordObject)
  | foreign (o : ForeignObject)

instance : Inhabited HostObject := ⟨.foreign ⟨default, [], none, []⟩⟩

/-- The members that an object shows. -/
def HostObject.schema : HostObject → Shape
  | .record o => o.schema
  | .foreign o => o.schema

/-- All mappings and objects. -/
structure Store where
  mappings : Array Mapping
  objects : Array HostObject
  nextTag : Nat

namespace Store

/-- The store without mappings and objects. -/
def empty : Store := ⟨#[], #[], 0⟩

instance : Inhabited Store := ⟨empty⟩

/-- The mapping at an address. -/
def mapping (σ : Store) (address : Nat) : Mapping := σ.mappings.getD address default

/-- The object at an address. -/
def object (σ : Store) (address : Nat) : HostObject := σ.objects.getD address default

/-- Add a mapping. -/
def addMapping (σ : Store) (m : Mapping) : MapRef × Store :=
  (.cell σ.mappings.size, { σ with mappings := σ.mappings.push m })

/-- Add an object of a type. -/
def addObject (σ : Store) (typeName : String) (o : HostObject) : ObjectRef × Store :=
  (⟨typeName, σ.objects.size⟩, { σ with objects := σ.objects.push o })

/-- Replace the mapping at an address. -/
def setMapping (σ : Store) (address : Nat) (m : Mapping) : Store :=
  { σ with mappings := σ.mappings.setIfInBounds address m }

/-- Replace the object at an address. -/
def setObject (σ : Store) (address : Nat) (o : HostObject) : Store :=
  { σ with objects := σ.objects.setIfInBounds address o }

/-- Keep a mapping that was read: a view without a tag gets the next one. -/
def keep (σ : Store) : MapRef → MapRef × Store
  | .view none inner comparison =>
    (.view (some σ.nextTag) inner comparison, { σ with nextTag := σ.nextTag + 1 })
  | m => (m, σ)

theorem mapping_of_getElem? {σ : Store} {address : Nat} {m : Mapping}
    (h : σ.mappings[address]? = some m) : σ.mapping address = m := by
  rw [mapping, Array.getD_eq_getD_getElem?, h, Option.getD_some]

theorem object_of_getElem? {σ : Store} {address : Nat} {o : HostObject}
    (h : σ.objects[address]? = some o) : σ.object address = o := by
  rw [object, Array.getD_eq_getD_getElem?, h, Option.getD_some]

@[simp] theorem mapping_setMapping_self {σ : Store} {address : Nat} {m : Mapping}
    (h : address < σ.mappings.size) : (σ.setMapping address m).mapping address = m := by
  simp [mapping, setMapping, h]

@[simp] theorem mapping_setMapping_of_ne {σ : Store} {a b : Nat} {m : Mapping} (h : a ≠ b) :
    (σ.setMapping a m).mapping b = σ.mapping b := by
  simp [mapping, setMapping, Array.getD_eq_getD_getElem?, h]

/-- To replace a mapping by itself changes nothing. -/
@[simp] theorem setMapping_mapping (σ : Store) (address : Nat) :
    σ.setMapping address (σ.mapping address) = σ := by
  have hkept : σ.mappings.setIfInBounds address (σ.mapping address) = σ.mappings := by
    refine Array.ext (Array.size_setIfInBounds ..) fun i hsize hi => ?_
    rw [Array.getElem_setIfInBounds]
    split
    · rename_i heq
      subst heq
      rw [mapping, Array.getD_eq_getD_getElem?, Array.getElem?_eq_getElem hi, Option.getD_some]
    · rfl
  rw [setMapping, hkept]

/-! ## Objects -/

/-- The members that an object shows at present. -/
def schema (σ : Store) (o : ObjectRef) : Shape := (σ.object o.address).schema

/-- Read a property of an object. -/
def readMember (σ : Store) (o : ObjectRef) (name : String) : Except HostError Value :=
  match σ.object o.address with
  | .record r => r.get name
  | .foreign f => f.get o.typeName name

/-- Write a property of an object. -/
def writeMember (σ : Store) (o : ObjectRef) (name : String) (v : Value) :
    Except HostError Store :=
  match σ.object o.address with
  | .record r => (r.set name v).map fun after => σ.setObject o.address (.record after)
  | .foreign f =>
    (f.set o.typeName name v).map fun after => σ.setObject o.address (.foreign after)

/-- Call a method of an object. What the body wrote stays, whatever the result. -/
def invoke (σ : Store) (o : ObjectRef) (name : String) (args : List Value) :
    Except HostError Value × Store :=
  match σ.object o.address with
  | .record r =>
    let (result, after) := r.invoke name args
    (result, σ.setObject o.address (.record after))
  | .foreign f => (f.invoke o.typeName name, σ)

/-- Give a foreign object another schema. -/
def replaceSchema (σ : Store) (o : ObjectRef) (schema : Shape) : Store :=
  match σ.object o.address with
  | .record _ => σ
  | .foreign f => σ.setObject o.address (.foreign { f with schema := schema })

end Store

end DuckTyping
