import DuckTyping.Number.Integer
import DuckTyping.Number.Shortest
import DuckTyping.Text.Quoted
import DuckTyping.Time.Rfc3339
import DuckTyping.Types.Sameness
import DuckTyping.Uuid
import DuckTyping.Value.EnumValue
import DuckTyping.Value.Reference

set_option autoImplicit false

/-!
# Dynamic values

A value is null, a scalar, a list of values, or a reference to a mapping or an object. Every value
has a type, and may be stored where its own type, any type or, for mappings and objects, a shape is
declared; null may be stored anywhere.
-/

namespace DuckTyping

/-- A dynamically typed value. -/
inductive Value where
  | null
  | bool (b : Bool)
  | int (n : Int64)
  | float (x : Float)
  | text (s : String)
  | dateTime (t : Time.DateTime)
  | uuid (u : Uuid)
  | enumeration (v : EnumValue)
  | list (items : List Value)
  | map (ref : MapRef)
  | object (ref : ObjectRef)

instance : Inhabited Value := ⟨.null⟩

namespace Value

/-- The type of a value. -/
def valueType : Value → ValueType
  | .null => .null
  | .bool _ => .boolean
  | .int _ => .integer
  | .float _ => .float
  | .text _ => .text
  | .dateTime _ => .dateTime
  | .uuid _ => .uuid
  | .enumeration v => .enumeration v.type
  | .list _ => .list
  | .map _ => .map
  | .object o => .object o.typeName

/-- The name of a value's type in messages. -/
def typeName (v : Value) : String := v.valueType.render

def isNull : Value → Bool
  | .null => true
  | _ => false

/-- The value may be stored where the type is declared. The members behind a shape are checked when
the slot is adapted. -/
def conformsTo (v : Value) (type : ValueType) : Bool :=
  match v, type with
  | _, .any => true
  | .null, _ => true
  | .map _, .shape _ => true
  | .object _, .shape _ => true
  | .object o, .object name => o.typeName == name
  | v, type => v.valueType.same type

mutual

/-- Equality of values: floats as numbers, mappings and objects by identity. -/
def same : Value → Value → Bool
  | .null, .null => true
  | .bool a, .bool b => a == b
  | .int a, .int b => a == b
  | .float a, .float b => a == b
  | .text a, .text b => a == b
  | .dateTime a, .dateTime b => a == b
  | .uuid a, .uuid b => a == b
  | .enumeration a, .enumeration b => a == b
  | .list as, .list bs => sameItems as bs
  | .map a, .map b => a.same b
  | .object a, .object b => a.same b
  | _, _ => false

/-- Lists are equal item by item. -/
def sameItems : List Value → List Value → Bool
  | [], [] => true
  | a :: as, b :: bs => a.same b && sameItems as bs
  | _, _ => false

end

mutual

/-- The value is a mapping or holds one in a list. -/
def holdsMap : Value → Bool
  | .map _ => true
  | .list items => anyHoldsMap items
  | _ => false

def anyHoldsMap : List Value → Bool
  | [] => false
  | v :: rest => v.holdsMap || anyHoldsMap rest

end

/-- A value without mappings and objects as `name(text)`. -/
def tagged (name text : String) : String := "Value::" ++ name ++ "(" ++ text ++ ")"

mutual

/-- The diagnostic form of a value. Of a mapping it shows only which one it is. -/
def summary : Value → String
  | .null => "Value::Null"
  | .bool b => tagged "Bool" (if b then "true" else "false")
  | .int n => tagged "Int" (String.ofList (Number.renderInt64 n))
  | .float x => tagged "Float" (String.ofList (Number.renderFloat x))
  | .text s => tagged "Text" (Text.quoted s)
  | .dateTime t => tagged "DateTime" (String.ofList t.render)
  | .uuid u => tagged "Uuid" (String.ofList u.render)
  | .enumeration v => tagged "Enum" (v.type.name ++ "::" ++ v.variant)
  | .list items => tagged "List" ("[" ++ ", ".intercalate (summaries items) ++ "]")
  | .map (.cell address) => tagged "Map" ("0x" ++ String.ofList (Nat.toDigits 16 address))
  | .map (.view tag _ _) =>
    tagged "Map" ("0x" ++ String.ofList (Nat.toDigits 16 (tag.getD 0)))
  | .object o => tagged "Object" o.typeName

def summaries : List Value → List String
  | [] => []
  | v :: rest => v.summary :: summaries rest

end

def bool? : Value → Option Bool
  | .bool b => some b
  | _ => none

def int? : Value → Option Int64
  | .int n => some n
  | _ => none

def float? : Value → Option Float
  | .float x => some x
  | _ => none

def text? : Value → Option String
  | .text s => some s
  | _ => none

def dateTime? : Value → Option Time.DateTime
  | .dateTime t => some t
  | _ => none

def uuid? : Value → Option Uuid
  | .uuid u => some u
  | _ => none

def enumeration? : Value → Option EnumValue
  | .enumeration v => some v
  | _ => none

def list? : Value → Option (List Value)
  | .list items => some items
  | _ => none

def map? : Value → Option MapRef
  | .map m => some m
  | _ => none

def object? : Value → Option ObjectRef
  | .object o => some o
  | _ => none

@[simp] theorem conformsTo_any (v : Value) : v.conformsTo .any = true := by
  cases v <;> simp [conformsTo]

@[simp] theorem null_conformsTo (t : ValueType) : Value.null.conformsTo t = true := by
  cases t <;> simp [conformsTo]

/-- A value may be stored where its own type is declared. -/
@[simp] theorem conformsTo_valueType (v : Value) : v.conformsTo v.valueType = true := by
  cases v <;> simp [conformsTo, valueType]

/-- Whether a value is null is a matter of its type. -/
theorem isNull_congr {v w : Value} (h : v.valueType = w.valueType) : v.isNull = w.isNull := by
  cases v <;> cases w <;> first | rfl | cases h

/-- Where a value may be stored is a matter of its type. -/
theorem conformsTo_congr {v w : Value} (h : v.valueType = w.valueType) (t : ValueType) :
    v.conformsTo t = w.conformsTo t := by
  cases v <;> cases w <;> simp only [valueType, reduceCtorEq, ValueType.enumeration.injEq,
    ValueType.object.injEq] at h
  all_goals cases t <;> simp only [conformsTo, valueType, h]

end Value

end DuckTyping
