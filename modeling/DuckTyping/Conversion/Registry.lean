import DuckTyping.Conversion.ConversionError

set_option autoImplicit false

/-!
# Registries of converters

A converter bridges two kinds of type and works both ways: `parse` leads from its source kind to its
target kind, `format` back. A registry holds at most one converter between two kinds, the last one
registered, whichever way round it was registered.
-/

namespace DuckTyping

/-- Converts a value to a type; the type matters where a kind has parameters. -/
abbrev Conversion : Type := Value → ValueType → Except ConversionError Value

/-- A converter between two kinds of type. -/
structure Converter where
  source : TypeKind
  target : TypeKind
  parse : Conversion
  format : Conversion

namespace Converter

/-- The converter connects these two kinds, in either direction. -/
def connects (c : Converter) (a b : TypeKind) : Bool :=
  (c.source == a && c.target == b) || (c.source == b && c.target == a)

/-- The kinds that a converter connects. -/
def summary (c : Converter) : String :=
  "Converter(" ++ c.source.render ++ " <-> " ++ c.target.render ++ ")"

end Converter

/-- The converters that are known. -/
structure Registry where
  converters : List Converter

namespace Registry

/-- The registry that converts nothing. -/
def empty : Registry := ⟨[]⟩

instance : Inhabited Registry := ⟨empty⟩

/-- Add a converter in place of any other between its two kinds. -/
def register (r : Registry) (c : Converter) : Registry :=
  ⟨c :: r.converters.filter fun d => !d.connects c.source c.target⟩

/-- The number of converters. -/
def size (r : Registry) : Nat := r.converters.length

def isEmpty (r : Registry) : Bool := r.converters.isEmpty

/-- The conversion from one kind to another: a converter registered that way round, else one
registered the other way round, used backwards. -/
def find? (r : Registry) (source target : TypeKind) : Option Conversion :=
  match r.converters.find? fun c => c.source == source && c.target == target with
  | some c => some c.parse
  | none =>
    (r.converters.find? fun c => c.source == target && c.target == source).map Converter.format

/-- A converter is registered between the kinds of the two types. -/
def canConvert (r : Registry) (source target : ValueType) : Bool :=
  (r.find? source.kind target.kind).isSome

/-- Convert a value to a type. Null, and a value that may be stored as it is, stay unchanged. -/
def convert (r : Registry) (v : Value) (target : ValueType) : Except ConversionError Value :=
  if v.isNull || v.conformsTo target then .ok v
  else match r.find? v.valueType.kind target.kind with
    | some conversion => conversion v target
    | none => .error (.noConverter v.valueType target)

/-- The diagnostic form of a registry. -/
def summary (r : Registry) : String :=
  let entry (c : Converter) : String :=
    "(" ++ c.source.summary ++ ", " ++ c.target.summary ++ "): " ++ c.summary
  "ConverterRegistry \x7b converters: \x7b" ++ ", ".intercalate (r.converters.map entry) ++
    "\x7d \x7d"

@[simp] theorem convert_null (r : Registry) (t : ValueType) : r.convert .null t = .ok .null := rfl

theorem convert_of_conformsTo (r : Registry) {v : Value} {t : ValueType}
    (h : v.conformsTo t = true) : r.convert v t = .ok v := by
  simp [convert, h]

end Registry

end DuckTyping
