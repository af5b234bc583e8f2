import DuckTyping.Value.HostError

set_option autoImplicit false

/-!
# Refusals of foreign hosts
-/

namespace DuckTyping

/-- How a foreign mapping or object turns down every write. -/
inductive Refusal where
  | readOnly
  | missing
  | failing
  deriving DecidableEq, Repr, Inhabited

/-- The report of a refused write to a member or key of `owner`. -/
def Refusal.error (r : Refusal) (owner member : String) : HostError :=
  match r with
  | .readOnly => .readOnly member
  | .missing => .missingMember owner member
  | .failing => .invocation member "refused"

end DuckTyping
