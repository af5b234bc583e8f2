import DuckTyping.Number.Digits

set_option autoImplicit false

/-!
# Reading a text from the front

A scanner takes a piece off the front of a text and hands back the rest, or fails. Forms of dates
and times are read by a few scanners in a row.
-/

namespace DuckTyping.Text

open DuckTyping.Number

/-- Takes a value off the front of a text. -/
abbrev Scanner (α : Type) : Type := List Char → Option (α × List Char)

/-- The one character that has to come next. -/
def scanChar (c : Char) : List Char → Option (List Char)
  | d :: rest => if d = c then some rest else none
  | [] => none

/-- Exactly `n` digits. -/
def scanDigits (n : Nat) : Scanner Nat := fun cs =>
  let digits := cs.take n
  if digits.length = n ∧ digits.all isDigit then some (digitsValue digits, cs.drop n)
  else none

/-- One digit, or two if another follows. -/
def scanUpToTwoDigits : Scanner Nat := fun cs =>
  let digits := (cs.take 2).takeWhile isDigit
  if digits.isEmpty then none else some (digitsValue digits, cs.drop digits.length)

/-- A run of digits, as long as it is. -/
def scanRun : Scanner Nat := fun cs =>
  let digits := cs.takeWhile isDigit
  if digits.isEmpty then none else some (digitsValue digits, cs.dropWhile isDigit)

end DuckTyping.Text
