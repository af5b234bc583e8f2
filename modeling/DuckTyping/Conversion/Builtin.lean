import DuckTyping.Conversion.Registry
import DuckTyping.Text.WhiteSpace
import DuckTyping.Time.Lenient

set_option autoImplicit false

/-!
# The default converters

Text converts to and from integers, floats, booleans, dates and times, enumerations and identifiers;
integers convert to and from floats. White space around a text does not count when it is read.
-/

namespace DuckTyping.Conversion

open DuckTyping.Number

/-- Read a text without the white space around it; the value as a whole appears in the report. -/
def reading (read : List Char → ValueType → Except Unreadable Value) : Conversion :=
  fun v target =>
    match v with
    | .text s =>
      match read (Text.trim s.toList) target with
      | .ok result => .ok result
      | .error reason => .error (.ofValue v target reason)
    | _ => .error (.ofValue v target .notText)

/-- Text to integer. -/
def readInteger (cs : List Char) (_ : ValueType) : Except Unreadable Value :=
  match parseInt64 cs with
  | .ok n => .ok (.int n)
  | .error fault => .error (.integer fault)

/-- Text to float. -/
def readFloat (cs : List Char) (_ : ValueType) : Except Unreadable Value :=
  match parseFloat cs with
  | .ok x => .ok (.float x)
  | .error fault => .error (.float fault)

/-- Text to boolean: the words `true` and `false` in any case. -/
def readBoolean (cs : List Char) (_ : ValueType) : Except Unreadable Value :=
  let word := String.ofList cs
  if Text.eqIgnoreAsciiCase word "true" then .ok (.bool true)
  else if Text.eqIgnoreAsciiCase word "false" then .ok (.bool false)
  else .error .notBoolean

/-- Text to date and time. -/
def readDateTime (cs : List Char) (_ : ValueType) : Except Unreadable Value :=
  match Time.parseDateTime cs with
  | some t => .ok (.dateTime t)
  | none => .error .notDateTime

/-- Text to enumeration: the name of a variant, the case of ASCII letters ignored if need be. -/
def readEnum (cs : List Char) (target : ValueType) : Except Unreadable Value :=
  match target with
  | .enumeration type =>
    let name := String.ofList cs
    match (type.variantIgnoreCase? name).bind (EnumValue.ofVariant? type) with
    | some v => .ok (.enumeration v)
    | none => .error (.noVariant name type.name)
  | _ => .error .notEnumType

/-- Text to identifier. -/
def readUuid (cs : List Char) (_ : ValueType) : Except Unreadable Value :=
  match Uuid.parse cs with
  | .ok u => .ok (.uuid u)
  | .error fault => .error (.uuid fault)

/-- The text of a scalar. -/
def textOf? : Value → Option String
  | .int n => some (String.ofList (renderInt64 n))
  | .float x => some (String.ofList (renderFloat x))
  | .bool b => some (if b then "true" else "false")
  | .dateTime t => some (String.ofList t.render)
  | .enumeration v => some v.variant
  | .uuid u => some (String.ofList u.render)
  | .text s => some s
  | _ => none

/-- Scalar to text. -/
def formatText : Conversion := fun v target =>
  match textOf? v with
  | some s => .ok (.text s)
  | none => .error (.ofValue v target .noTextForm)

/-- Integer to the nearest float. -/
def widenInteger : Conversion := fun v target =>
  match v with
  | .int n => .ok (.float (ofInteger n.toInt))
  | _ => .error (.ofValue v target .notInteger)

/-- Float to integer, if it is a whole number in range. -/
def narrowFloat : Conversion := fun v target =>
  match v with
  | .float x =>
    match integral? x with
    | some n =>
      if -Int.pow 2 63 ≤ n ∧ n < Int.pow 2 63 then .ok (.int (Int64.ofInt n))
      else .error (.ofValue v target .notIntegral)
    | none => .error (.ofValue v target .notIntegral)
  | _ => .error (.ofValue v target .notFloat)

/-- The converter between text and another kind. -/
def textConverter (target : TypeKind)
    (read : List Char → ValueType → Except Unreadable Value) : Converter :=
  ⟨.text, target, reading read, formatText⟩

/-- The default converters, in the order in which they are registered. -/
def builtins : List Converter :=
  [textConverter .integer readInteger, textConverter .float readFloat,
    textConverter .boolean readBoolean, textConverter .dateTime readDateTime,
    textConverter .enumeration readEnum, textConverter .uuid readUuid,
    ⟨.integer, .float, widenInteger, narrowFloat⟩]

end Conversion

/-- The registry that holds the default converters. -/
def Registry.default : Registry := Conversion.builtins.foldl Registry.register Registry.empty

end DuckTyping
