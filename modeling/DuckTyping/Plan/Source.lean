import DuckTyping.Store.Reading

set_option autoImplicit false

/-!
# Sources

What may stand in for a shape: a mapping or an object. A source is a reference; nothing is copied.
-/

namespace DuckTyping

/-- A mapping or an object that is to be adapted. -/
inductive Source where
  | map (ref : MapRef)
  | object (ref : ObjectRef)
  deriving DecidableEq, Repr, Inhabited

namespace Source

/-- The source that a value refers to. -/
def ofValue? : Value → Option Source
  | .map m => some (.map m)
  | .object o => some (.object o)
  | _ => none

/-- The source as a value. -/
def toValue : Source → Value
  | .map m => .map m
  | .object o => .object o

/-- The name of the source's type in messages. -/
def typeName : Source → String
  | .map _ => "mapping"
  | .object o => o.typeName

def isMap : Source → Bool
  | .map _ => true
  | .object _ => false

@[simp] theorem ofValue?_toValue (s : Source) : ofValue? s.toValue = some s := by
  cases s <;> rfl

end Source

end DuckTyping
