import DuckTyping.Number.Binary64
import DuckTyping.Number.Digits

set_option autoImplicit false

/-!
# Reading binary64 numbers

A number is an optional sign and then either a name, `inf`, `infinity` or `nan` in any case, or
digits with at most one point among, before or after them and an optional exponent. The value is the
binary64 number nearest to what is written.
-/

namespace DuckTyping.Number

/-- Why a text is no binary64 number. -/
inductive FloatFault where
  | empty
  | invalid
  deriving DecidableEq, Repr, Inhabited

/-- The text that reports the fault. -/
def FloatFault.message : FloatFault → String
  | .empty => "cannot parse float from empty string"
  | .invalid => "invalid float literal"

/-- The exponent after its mark: an optional sign and digits up to the end. -/
def exponentValue? (cs : List Char) : Option Int :=
  let (negative, digits) := match cs with
    | '-' :: rest => (true, rest)
    | '+' :: rest => (false, rest)
    | _ => (false, cs)
  if digits.isEmpty || !digits.all isDigit then none
  else some (if negative then -(digitsValue digits : Int) else digitsValue digits)

/-- The number nearest to `digits * 10 ^ exponent`. What is out of reach of every finite number is
decided by the count of digits, before any power is computed. -/
def nearestDecimal (negative : Bool) (digits : Nat) (exponent : Int) : Float :=
  let leading := exponent + (Nat.toDigits 10 digits).length
  if digits = 0 ∨ leading < -400 then nearest negative 0 1
  else if 400 < leading then infinity negative
  else nearest negative (digits * Nat.pow 10 exponent.toNat) (Nat.pow 10 (-exponent).toNat)

/-- Digits with an optional point and an optional exponent. -/
def parseDecimal? (negative : Bool) (cs : List Char) : Option Float :=
  let whole := cs.takeWhile isDigit
  let afterWhole := cs.dropWhile isDigit
  let (fraction, rest) := match afterWhole with
    | '.' :: more => (more.takeWhile isDigit, more.dropWhile isDigit)
    | _ => ([], afterWhole)
  if whole.isEmpty && fraction.isEmpty then none
  else
    let digits := digitsValue (whole ++ fraction)
    match rest with
    | [] => some (nearestDecimal negative digits (-fraction.length))
    | mark :: more =>
      if mark = 'e' ∨ mark = 'E' then
        (exponentValue? more).map fun e => nearestDecimal negative digits (e - fraction.length)
      else none

/-- A number without its sign. -/
def parseUnsigned? (negative : Bool) (cs : List Char) : Option Float :=
  let name := String.ofList (cs.map Char.toLower)
  if name = "inf" ∨ name = "infinity" then some (infinity negative)
  else if name = "nan" then some notANumber
  else parseDecimal? negative cs

/-- Read a binary64 number. -/
def parseFloat (cs : List Char) : Except FloatFault Float :=
  let number := match cs with
    | '-' :: rest => parseUnsigned? true rest
    | '+' :: rest => parseUnsigned? false rest
    | _ => parseUnsigned? false cs
  if cs.isEmpty then .error .empty
  else match number with
    | some x => .ok x
    | none => .error .invalid

end DuckTyping.Number
