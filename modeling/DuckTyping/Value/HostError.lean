import DuckTyping.Value.Value

set_option autoImplicit false

/-!
# Failures of hosts

What a mapping or an object reports when it refuses an operation.
-/

namespace DuckTyping

/-- Why a mapping or an object refused an operation. -/
inductive HostError where
  /-- the object has no such member -/
  | missingMember (typeName member : String)
  /-- the member, or the mapping that would take the key, cannot be written -/
  | readOnly (member : String)
  /-- a value does not fit the type declared for it -/
  | typeMismatch (expected found : ValueType)
  /-- the members of an object cannot be told apart -/
  | undistinguished (fault : TypeError)
  | argumentCount (member : String) (expected found : Nat)
  /-- the body of a method, or the host itself, failed -/
  | invocation (member text : String)
  deriving DecidableEq

instance : Inhabited HostError := ⟨.readOnly ""⟩

/-- The text that reports the failure. -/
def HostError.message : HostError → String
  | .missingMember typeName member => "Member '" ++ member ++ "' not found on " ++ typeName
  | .readOnly member => "'" ++ member ++ "' is read-only"
  | .typeMismatch expected found =>
    "Type mismatch: expected " ++ expected.render ++ ", got " ++ found.render
  | .undistinguished fault =>
    "Type mismatch: expected distinct member names, got " ++ fault.message
  | .argumentCount member expected found =>
    "Method '" ++ member ++ "' expects " ++ Nat.repr expected ++ " argument(s), got " ++
      Nat.repr found
  | .invocation member text => "Method '" ++ member ++ "' failed: " ++ text

end DuckTyping
