set_option autoImplicit false

/-!
# Sets of characters

A character property of a standard is a set of code points that falls into a few hundred intervals.
Such a set is kept as the ascending list of the code points at which membership changes.
-/

namespace DuckTyping.Text

/-- A set of characters, given by the code points at which membership switches on and off. -/
structure CharSet where
  boundaries : List Nat
  deriving DecidableEq, Repr, Inhabited

namespace CharSet

/-- A character is a member when an odd number of boundaries are not above it. -/
def contains (s : CharSet) (c : Char) : Bool :=
  (s.boundaries.takeWhile (· ≤ c.toNat)).length % 2 == 1

end CharSet

end DuckTyping.Text
