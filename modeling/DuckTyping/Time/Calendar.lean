set_option autoImplicit false

/-!
# Civil dates

Dates of the proleptic Gregorian calendar, and their numbers counted in days from the first of
January 1970. Years are counted from March for this, so that a leap day is the last day of its year:
a period of 400 such years has 146097 days, and the months from March on begin at days
`(153 * m + 2) / 5`.
-/

namespace DuckTyping.Time

/-- A day of a month of a year. -/
structure Date where
  year : Int
  month : Nat
  day : Nat
  deriving DecidableEq, Repr, Inhabited

def isLeapYear (year : Int) : Bool :=
  year % 4 = 0 ∧ (year % 100 ≠ 0 ∨ year % 400 = 0)

/-- The number of days of a month; months are counted from one. -/
def daysInMonth (year : Int) (month : Nat) : Nat :=
  if month = 2 then (if isLeapYear year then 29 else 28)
  else if month = 4 ∨ month = 6 ∨ month = 9 ∨ month = 11 then 30
  else 31

/-- The first and the last year that dates reach. -/
def firstYear : Int := -262143

@[inherit_doc firstYear] def lastYear : Int := 262142

namespace Date

/-- The date exists and its year is within reach. -/
def IsValid (d : Date) : Prop :=
  firstYear ≤ d.year ∧ d.year ≤ lastYear ∧ 1 ≤ d.month ∧ d.month ≤ 12 ∧ 1 ≤ d.day ∧
    d.day ≤ daysInMonth d.year d.month

instance (d : Date) : Decidable d.IsValid :=
  inferInstanceAs (Decidable (_ ∧ _ ∧ _ ∧ _ ∧ _ ∧ _))

/-- The number of the day, counted from 1 January 1970. -/
def dayNumber (d : Date) : Int :=
  let year := if d.month ≤ 2 then d.year - 1 else d.year
  let month : Int := if d.month ≤ 2 then d.month + 9 else d.month - 3
  let period := year / 400
  let yearOfPeriod := year % 400
  let dayOfYear := (153 * month + 2) / 5 + d.day - 1
  let dayOfPeriod := yearOfPeriod * 365 + yearOfPeriod / 4 - yearOfPeriod / 100 + dayOfYear
  period * 146097 + dayOfPeriod - 719468

/-- The date of the day with this number. -/
def ofDayNumber (n : Int) : Date :=
  let period := (n + 719468) / 146097
  let dayOfPeriod := (n + 719468) % 146097
  let yearOfPeriod :=
    (dayOfPeriod - dayOfPeriod / 1460 + dayOfPeriod / 36524 - dayOfPeriod / 146096) / 365
  let dayOfYear := dayOfPeriod - (365 * yearOfPeriod + yearOfPeriod / 4 - yearOfPeriod / 100)
  let month := (5 * dayOfYear + 2) / 153
  let day := dayOfYear - (153 * month + 2) / 5 + 1
  let year := yearOfPeriod + period * 400
  if month < 10 then ⟨year, (month + 3).toNat, day.toNat⟩
  else ⟨year + 1, (month - 9).toNat, day.toNat⟩

end Date

end DuckTyping.Time
