set_option autoImplicit false

/-!
# Digits

Decimal and hexadecimal digits in ASCII, and the numbers that runs of them write.
-/

namespace DuckTyping.Number

/-- The value of a decimal digit. -/
def digit? (c : Char) : Option Nat :=
  if '0' ≤ c ∧ c ≤ '9' then some (c.toNat - '0'.toNat) else none

def isDigit (c : Char) : Bool := (digit? c).isSome

/-- The number that decimal digits write. -/
def digitsValue (digits : List Char) : Nat :=
  digits.foldl (fun acc c => 10 * acc + (digit? c).getD 0) 0

/-- The decimal text of a number, with zeros in front up to a least width. -/
def renderPadded (width n : Nat) : List Char :=
  let digits := Nat.toDigits 10 n
  List.replicate (width - digits.length) '0' ++ digits

/-- The value of a hexadecimal digit of either case. -/
def hexDigit? (c : Char) : Option Nat :=
  if '0' ≤ c ∧ c ≤ '9' then some (c.toNat - '0'.toNat)
  else if 'a' ≤ c ∧ c ≤ 'f' then some (c.toNat - 'a'.toNat + 10)
  else if 'A' ≤ c ∧ c ≤ 'F' then some (c.toNat - 'A'.toNat + 10)
  else none

def isHexDigit (c : Char) : Bool := (hexDigit? c).isSome

/-- The number that hexadecimal digits write. -/
def hexValue (digits : List Char) : Nat :=
  digits.foldl (fun acc c => 16 * acc + (hexDigit? c).getD 0) 0

/-- Exactly `n` lower-case hexadecimal digits, the last ones of the number. -/
def renderHex : Nat → Nat → List Char
  | 0, _ => []
  | n + 1, value => renderHex n (value / 16) ++ [Nat.digitChar (value % 16)]

@[simp] theorem length_renderHex (n value : Nat) : (renderHex n value).length = n := by
  induction n generalizing value with
  | zero => rfl
  | succ n ih => simp [renderHex, ih]

end DuckTyping.Number
