import DuckTyping.Text.Scan
import DuckTyping.Time.DateTime

set_option autoImplicit false

/-!
# Time stamps

The written form of a point in time: date, `T`, time, and the distance from universal time. It is
written in universal time with as many groups of three fraction digits as are needed, and read with
any distance below a day.
-/

namespace DuckTyping.Time

open DuckTyping.Number DuckTyping.Text

/-- Four digits, with a sign in front when the year needs more or lies before year zero. -/
def renderYear (year : Int) : List Char :=
  if 0 ≤ year ∧ year ≤ 9999 then renderPadded 4 year.toNat
  else (if year < 0 then '-' else '+') :: renderPadded 4 year.natAbs

/-- A point and three, six or nine digits, or nothing for a whole second. -/
def renderFraction (nanos : Nat) : List Char :=
  if nanos = 0 then []
  else if nanos % 1000000 = 0 then '.' :: renderPadded 3 (nanos / 1000000)
  else if nanos % 1000 = 0 then '.' :: renderPadded 6 (nanos / 1000)
  else '.' :: renderPadded 9 nanos

/-- Year, month and day with hyphens between them. -/
def Date.render (d : Date) : List Char :=
  renderYear d.year ++ '-' :: renderPadded 2 d.month ++ '-' :: renderPadded 2 d.day

/-- Hour, minute and second with colons between them, and the fraction. -/
def Clock.render (c : Clock) : List Char :=
  renderPadded 2 c.hour ++ ':' :: renderPadded 2 c.minute ++ ':' :: renderPadded 2 c.second ++
    renderFraction c.nanos

/-- A point in time as a time stamp in universal time. -/
def DateTime.render (t : DateTime) : List Char :=
  t.date.render ++ 'T' :: t.clock.render ++ ['+', '0', '0', ':', '0', '0']

/-- The nanoseconds that fraction digits write; digits after the ninth do not count. -/
def scanNanos : Scanner Nat := fun cs =>
  let digits := cs.takeWhile isDigit
  if digits.isEmpty then none
  else
    let kept := digits.take 9
    some (digitsValue kept * Nat.pow 10 (9 - kept.length), cs.dropWhile isDigit)

/-- A fraction if a point comes next; a point needs digits after it. -/
def scanFraction : Scanner Nat
  | '.' :: rest => scanNanos rest
  | cs => some (0, cs)

/-- A date with all its digits. -/
def scanFullDate : Scanner Date := fun cs => do
  let (year, cs) ← scanDigits 4 cs
  let cs ← scanChar '-' cs
  let (month, cs) ← scanDigits 2 cs
  let cs ← scanChar '-' cs
  let (day, cs) ← scanDigits 2 cs
  return (⟨year, month, day⟩, cs)

/-- A time of day with all its digits, and perhaps a fraction. -/
def scanFullClock : Scanner Clock := fun cs => do
  let (hour, cs) ← scanDigits 2 cs
  let cs ← scanChar ':' cs
  let (minute, cs) ← scanDigits 2 cs
  let cs ← scanChar ':' cs
  let (second, cs) ← scanDigits 2 cs
  let (nanos, cs) ← scanFraction cs
  return (⟨hour, minute, second, nanos⟩, cs)

/-- Hours and minutes of a distance from universal time. -/
def scanOffsetDigits (cs : List Char) : Option (Nat × List Char) := do
  let (hours, cs) ← scanDigits 2 cs
  let cs ← scanChar ':' cs
  let (minutes, cs) ← scanDigits 2 cs
  if hours ≤ 23 ∧ minutes ≤ 59 then some (60 * hours + minutes, cs) else none

/-- The distance from universal time in minutes: `Z`, or a sign with hours and minutes. -/
def scanOffset : Scanner Int
  | [] => none
  | c :: rest =>
    if c = 'Z' ∨ c = 'z' then some (0, rest)
    else if c = '+' then (scanOffsetDigits rest).map fun (n, cs) => ((n : Int), cs)
    else if c = '-' ∨ c = '−' then (scanOffsetDigits rest).map fun (n, cs) => (-(n : Int), cs)
    else none

/-- Read a time stamp; nothing may follow it. -/
def parseStamp (cs : List Char) : Option DateTime := do
  let (date, cs) ← scanFullDate cs
  let cs ← (scanChar 'T' cs).or ((scanChar 't' cs).or (scanChar ' ' cs))
  let (clock, cs) ← scanFullClock cs
  let (offset, cs) ← scanOffset cs
  if cs.isEmpty then DateTime.ofCivil? date clock offset else none

end DuckTyping.Time
