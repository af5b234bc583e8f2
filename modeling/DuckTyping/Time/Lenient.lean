import DuckTyping.Text.WhiteSpace
import DuckTyping.Time.Rfc3339

set_option autoImplicit false

/-!
# Dates and times without a zone

Hand-written dates, alone or with a time of day, are taken as universal time. White space may stand
before each number, numbers need no leading zeros, and the year may have a sign and then any number
of digits. Date and time are separated by `T` or by white space, which may be left out.
-/

namespace DuckTyping.Time

open DuckTyping.Number DuckTyping.Text

/-- One or two digits after white space. -/
def scanNumber : Scanner Nat := fun cs => scanUpToTwoDigits (trimStart cs)

/-- At most four digits, or any number of them after a sign, after white space. -/
def scanYear : Scanner Int := fun cs =>
  match trimStart cs with
  | '-' :: rest => (scanRun rest).map fun (n, cs) => (-(n : Int), cs)
  | '+' :: rest => (scanRun rest).map fun (n, cs) => ((n : Int), cs)
  | cs =>
    let digits := (cs.take 4).takeWhile isDigit
    if digits.isEmpty then none else some ((digitsValue digits : Int), cs.drop digits.length)

/-- Year, month and day with hyphens between them. -/
def scanDate : Scanner Date := fun cs => do
  let (year, cs) ← scanYear cs
  let cs ← scanChar '-' cs
  let (month, cs) ← scanNumber cs
  let cs ← scanChar '-' cs
  let (day, cs) ← scanNumber cs
  return (⟨year, month, day⟩, cs)

/-- Hour, minute, second with colons between them, and perhaps a fraction. -/
def scanClock : Scanner Clock := fun cs => do
  let (hour, cs) ← scanNumber cs
  let cs ← scanChar ':' cs
  let (minute, cs) ← scanNumber cs
  let cs ← scanChar ':' cs
  let (second, cs) ← scanNumber cs
  let (nanos, cs) ← scanFraction cs
  return (⟨hour, minute, second, nanos⟩, cs)

/-- What stands between date and time. -/
inductive Separator where
  | letterT
  | whiteSpace
  deriving DecidableEq, Repr, Inhabited

/-- Skip the separator; white space may be missing. -/
def Separator.skip (s : Separator) (cs : List Char) : Option (List Char) :=
  match s with
  | .letterT => scanChar 'T' cs
  | .whiteSpace => some (trimStart cs)

/-- A date and a time of day. -/
def parseDateAndClock (separator : Separator) (cs : List Char) : Option DateTime := do
  let (date, cs) ← scanDate cs
  let cs ← separator.skip cs
  let (clock, cs) ← scanClock cs
  if cs.isEmpty then DateTime.ofCivil? date clock 0 else none

/-- A date alone, which stands for its first moment. -/
def parseDate (cs : List Char) : Option DateTime := do
  let (date, cs) ← scanDate cs
  if cs.isEmpty then DateTime.ofCivil? date Clock.midnight 0 else none

/-- A time stamp, else a date and time without a zone, else a date. -/
def parseDateTime (cs : List Char) : Option DateTime :=
  (parseStamp cs).or <|
    (parseDateAndClock .letterT cs).or <|
      (parseDateAndClock .whiteSpace cs).or (parseDate cs)

end DuckTyping.Time
