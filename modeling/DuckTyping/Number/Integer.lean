import DuckTyping.Number.Digits

set_option autoImplicit false

/-!
# Decimal text of 64-bit integers

Integers are written in decimal with a leading minus. They are read from an optional sign and one or
more ASCII digits; the first digit that leads out of range, or the first character that is no digit,
decides what is wrong.
-/

namespace DuckTyping.Number

/-- Why a text is no 64-bit integer. -/
inductive IntegerFault where
  | empty
  | invalidDigit
  | tooLarge
  | tooSmall
  deriving DecidableEq, Repr, Inhabited

/-- The text that reports the fault. -/
def IntegerFault.message : IntegerFault → String
  | .empty => "cannot parse integer from empty string"
  | .invalidDigit => "invalid digit found in string"
  | .tooLarge => "number too large to fit in target type"
  | .tooSmall => "number too small to fit in target type"

/-- Append the digits to `acc`, as long as the number stays within the limit. -/
def accumulate (limit : Nat) (overflow : IntegerFault) (acc : Nat) :
    List Char → Except IntegerFault Nat
  | [] => .ok acc
  | c :: rest =>
    match digit? c with
    | none => .error .invalidDigit
    | some d =>
      if 10 * acc + d ≤ limit then accumulate limit overflow (10 * acc + d) rest
      else .error overflow

/-- The magnitude that the digits write; there has to be one. -/
def magnitude (limit : Nat) (overflow : IntegerFault) : List Char → Except IntegerFault Nat
  | [] => .error .invalidDigit
  | digits => accumulate limit overflow 0 digits

/-- Read a 64-bit integer. -/
def parseInt64 : List Char → Except IntegerFault Int64
  | [] => .error .empty
  | '+' :: digits => (magnitude (Nat.pow 2 63 - 1) .tooLarge digits).map fun n => Int64.ofInt n
  | '-' :: digits => (magnitude (Nat.pow 2 63) .tooSmall digits).map fun n => Int64.ofInt (-n)
  | digits => (magnitude (Nat.pow 2 63 - 1) .tooLarge digits).map fun n => Int64.ofInt n

/-- The decimal text of an integer. -/
def renderInt (n : Int) : List Char :=
  if n < 0 then '-' :: Nat.toDigits 10 n.natAbs else Nat.toDigits 10 n.natAbs

/-- The decimal text of a 64-bit integer. -/
def renderInt64 (n : Int64) : List Char := renderInt n.toInt

end DuckTyping.Number
