set_option autoImplicit false

/-!
# Runs of a case mapping

Case mappings send whole stretches of an alphabet to another stretch, either character by character
or, where capitals and small letters alternate, every second character.
-/

namespace DuckTyping.Text

/-- The characters `first`, `first + step`, … up to `last` map to `target`, `target + step`, …. -/
structure CaseRun where
  first : Nat
  last : Nat
  step : Nat
  target : Nat
  deriving DecidableEq, Repr, Inhabited

namespace CaseRun

/-- The run has an image for this code point. -/
def covers (r : CaseRun) (n : Nat) : Bool :=
  r.first ≤ n && n ≤ r.last && (n - r.first) % r.step == 0

/-- The image of a character under the first run that covers it, else the character itself. -/
def apply (runs : List CaseRun) (c : Char) : Char :=
  match runs.find? (·.covers c.toNat) with
  | some r => Char.ofNat (r.target + (c.toNat - r.first))
  | none => c

end CaseRun

end DuckTyping.Text
