import DuckTyping.Number.FloatLiteral
import DuckTyping.Number.Integer
import DuckTyping.Value.Value

set_option autoImplicit false

/-!
# Failed conversions
-/

namespace DuckTyping

/-- Why a value cannot be read as the type that is asked for. -/
inductive Unreadable where
  | notText
  | integer (fault : Number.IntegerFault)
  | float (fault : Number.FloatFault)
  | uuid (fault : UuidFault)
  | notBoolean
  | notDateTime
  | notEnumType
  | noVariant (name type : String)
  | noTextForm
  | notInteger
  | notFloat
  | notIntegral
  /-- a reason given by a host's own converter -/
  | other (reason : String)
  deriving DecidableEq, Repr, Inhabited

/-- The text that gives the reason. -/
def Unreadable.message : Unreadable → String
  | .notText => "expected text"
  | .integer fault => fault.message
  | .float fault => fault.message
  | .uuid fault => fault.message
  | .notBoolean => "expected true or false"
  | .notDateTime => "not a recognised date/time"
  | .notEnumType => "target is not an enum"
  | .noVariant name type => "no variant named " ++ Text.quoted name ++ " in " ++ type
  | .noTextForm => "no text form"
  | .notInteger => "expected integer"
  | .notFloat => "expected float"
  | .notIntegral => "not an integral value in range"
  | .other reason => reason

/-- Why a value was not converted. -/
inductive ConversionError where
  /-- the value, shown by `literal`, does not read as the target type -/
  | unparseable (literal : String) (source target : ValueType) (reason : Unreadable)
  /-- no converter is registered between the two types -/
  | noConverter (source target : ValueType)
  deriving DecidableEq

namespace ConversionError

/-- The text that reports the failure. -/
def message : ConversionError → String
  | .unparseable literal source target reason =>
    "Cannot convert " ++ Text.quoted literal ++ " from " ++ source.render ++ " to " ++
      target.render ++ ": " ++ reason.message
  | .noConverter source target =>
    "No converter from " ++ source.render ++ " to " ++ target.render

/-- The report that a value does not read as a type. A text stands for itself. -/
def ofValue (v : Value) (target : ValueType) (reason : Unreadable) : ConversionError :=
  let literal := match v with
    | .text s => s
    | other => other.summary
  .unparseable literal v.valueType target reason

end ConversionError

end DuckTyping
