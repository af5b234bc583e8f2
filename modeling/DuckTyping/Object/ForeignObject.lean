import DuckTyping.Mapping.ForeignMapping

set_option autoImplicit false

/-!
# Foreign objects

An object that a host brings along. It shows whatever schema it is given, which may change; what it
answers comes from lists of values and of results, and it checks nothing.
-/

namespace DuckTyping

/-- An object that checks nothing. -/
structure ForeignObject where
  schema : Shape
  values : List (String × Value)
  refusal : Option Refusal
  returns : List (String × Value)

namespace ForeignObject

/-- The first value listed under a name. -/
def listed? (entries : List (String × Value)) (name : String) : Option Value :=
  (entries.find? (·.1 == name)).map (·.2)

/-- Read a value. -/
def get (o : ForeignObject) (typeName name : String) : Except HostError Value :=
  match listed? o.values name with
  | some v => .ok v
  | none => .error (.missingMember typeName name)

/-- Write a value, unless the host refuses. -/
def set (o : ForeignObject) (typeName name : String) (v : Value) :
    Except HostError ForeignObject :=
  match o.refusal with
  | some refusal => .error (refusal.error typeName name)
  | none => .ok { o with values := replaceOrAppend (· == name) name v o.values }

/-- The listed result of a method, whatever the arguments. -/
def invoke (o : ForeignObject) (typeName name : String) : Except HostError Value :=
  match listed? o.returns name with
  | some v => .ok v
  | none => .error (.missingMember typeName name)

end ForeignObject

end DuckTyping
