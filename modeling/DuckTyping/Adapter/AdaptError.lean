import DuckTyping.Conversion.ConversionError
import DuckTyping.Value.HostError

set_option autoImplicit false

/-!
# Failures of adaptation
-/

namespace DuckTyping

/-- Why a write through an adapter was refused. -/
inductive WriteRefusal where
  /-- the shape of this name declares the member read-only -/
  | declaredReadOnly (shape : String)
  | mappingReadOnly
  /-- an object does not grow members -/
  | noSuchMember (typeName : String)
  | noSetter (typeName member : String)
  /-- the source said that the member is read-only -/
  | refusedBySource
  deriving DecidableEq, Repr, Inhabited

/-- The text of a refusal. -/
def WriteRefusal.message : WriteRefusal → String
  | .declaredReadOnly shape => "declared read-only by " ++ shape
  | .mappingReadOnly => "mapping is read-only"
  | .noSuchMember typeName => typeName ++ " has no such member"
  | .noSetter typeName member => typeName ++ "." ++ member ++ " has no setter"
  | .refusedBySource => "source refused the write"

/-- How the arguments of a call fail to match a signature. -/
inductive CallMismatch where
  | count (expected found : Nat)
  | argument (position : Nat) (expected found : ValueType)
  deriving DecidableEq

/-- The text of a mismatch. -/
def CallMismatch.message : CallMismatch → String
  | .count expected found =>
    "expected " ++ Nat.repr expected ++ " argument(s), got " ++ Nat.repr found
  | .argument position expected found =>
    "argument " ++ Nat.repr position ++ " expected " ++ expected.render ++ ", got " ++ found.render

/-- What an operation of an adapter needs a member to be. -/
inductive ExpectedKind where
  | property
  | method
  | shapeProperty
  deriving DecidableEq, Repr, Inhabited

/-- The name of the kind in messages. -/
def ExpectedKind.render : ExpectedKind → String
  | .property => "property"
  | .method => "method"
  | .shapeProperty => "shape-typed property"

/-- Why a source could not be adapted, or an adapter not do what was asked. -/
inductive AdaptError where
  /-- members of the shape are not satisfied -/
  | unsatisfiable (shape : String) (unresolved : List String)
  | conversion (e : ConversionError)
  | notWritable (member : String) (reason : WriteRefusal)
  | unknownMember (shape member : String)
  | wrongMemberKind (member : String) (expected : ExpectedKind)
  | signatureMismatch (member : String) (signature : MethodSignature) (reason : CallMismatch)
  /-- a nested member holds neither a mapping nor an object -/
  | notNestable (member : String) (found : ValueType)
  | host (e : HostError)
  deriving DecidableEq

/-- The text that reports the failure. -/
def AdaptError.message : AdaptError → String
  | .unsatisfiable shape unresolved =>
    "Source does not satisfy shape " ++ shape ++ "; unresolved: " ++ ", ".intercalate unresolved
  | .conversion e => e.message
  | .notWritable member reason => "Member '" ++ member ++ "' is not writable: " ++ reason.message
  | .unknownMember shape member => "Shape " ++ shape ++ " has no member '" ++ member ++ "'"
  | .wrongMemberKind member expected => "Member '" ++ member ++ "' is not a " ++ expected.render
  | .signatureMismatch member signature reason =>
    "Call to '" ++ member ++ "' does not match " ++ signature.render ++ ": " ++ reason.message
  | .notNestable member found =>
    "Nested member '" ++ member ++ "' holds " ++ found.render ++ ", not a mapping or object"
  | .host e => e.message

end DuckTyping
