import DuckTyping.Time.Calendar

set_option autoImplicit false

/-!
# Points in time

A point in time is a count of seconds since the start of 1970 in universal time, with nanoseconds. A
leap second has no number of its own: it is the second before it with a billion nanoseconds more.
Clocks number a leap second 60, which comes only at the end of a minute; yet any second may be given
as many nanoseconds.
-/

namespace DuckTyping.Time

/-- A point in time. From a billion nanoseconds on it lies in a leap second behind its second, be
that the last of a minute or not. -/
structure DateTime where
  seconds : Int
  nanos : Nat
  nanos_lt : nanos < 2000000000
  deriving DecidableEq, Repr

/-- A time of day as it is written; a minute may have a second numbered 60. -/
structure Clock where
  hour : Nat
  minute : Nat
  second : Nat
  nanos : Nat
  deriving DecidableEq, Repr, Inhabited

namespace Clock

/-- The clock shows this time. -/
def IsValid (c : Clock) : Prop :=
  c.hour ≤ 23 ∧ c.minute ≤ 59 ∧ c.second ≤ 60 ∧ c.nanos < 1000000000

instance (c : Clock) : Decidable c.IsValid :=
  inferInstanceAs (Decidable (_ ∧ _ ∧ _ ∧ _))

def midnight : Clock := ⟨0, 0, 0, 0⟩

end Clock

namespace DateTime

/-- A point in time, if its nanoseconds are in range and reach into a leap second only where a
minute ends. -/
def ofUnix? (seconds : Int) (nanos : Nat) : Option DateTime :=
  if h : nanos < 2000000000 ∧ (1000000000 ≤ nanos → seconds % 60 = 59) then
    some ⟨seconds, nanos, h.1⟩
  else none

/-- The point in time at which clocks that are `offset` minutes ahead show a date and time. -/
def ofCivil? (date : Date) (clock : Clock) (offset : Int) : Option DateTime :=
  if date.IsValid ∧ clock.IsValid then
    let leap := clock.second = 60
    let second := if leap then 59 else clock.second
    ofUnix? (date.dayNumber * 86400 + clock.hour * 3600 + (clock.minute - offset) * 60 + second)
      (clock.nanos + if leap then 1000000000 else 0)
  else none

/-- The date in universal time. -/
def date (t : DateTime) : Date := Date.ofDayNumber (t.seconds / 86400)

/-- The time of day in universal time. A leap second counts on from the second that it is behind. -/
def clock (t : DateTime) : Clock :=
  let s := (t.seconds % 86400).toNat
  { hour := s / 3600
    minute := s / 60 % 60
    second := s % 60 + t.nanos / 1000000000
    nanos := t.nanos % 1000000000 }

end DateTime

end DuckTyping.Time
