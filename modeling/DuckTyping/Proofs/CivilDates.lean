import DuckTyping.Time.DateTime
import Mathlib.Order.Monotone.Basic

set_option autoImplicit false

/-!
# Dates and the numbers of days

Every day has a date, and the number of that date is the number of the day. Within a period of 400
years the year only grows with the days, and it is right on the first and on the last day of each
year, so it is right on all days between; within a year the months are settled by the 366 days that
it may have. A point in time is thereby given by its date and its time of day, leap seconds at the
end of a minute included; one behind any other second is shown as the next second.
-/

namespace DuckTyping.Time

namespace Date

/-! ## Years of a period -/

/-- The number of days of a year that begins in March; its leap day belongs to the next year. -/
def daysFromMarch (year : Int) : Int := if isLeapYear (year + 1) then 366 else 365

/-- The day of a period on which a year of it begins. -/
def yearStart (year : Int) : Int := 365 * year + year / 4 - year / 100

/-- The year of a period to which a day of it belongs. -/
def yearOfPeriod (day : Int) : Int := (day - day / 1460 + day / 36524 - day / 146096) / 365

theorem isLeapYear_iff (year : Int) :
    isLeapYear year = true ↔ year % 4 = 0 ∧ (year % 100 ≠ 0 ∨ year % 400 = 0) := by
  rw [isLeapYear, decide_eq_true_iff]

/-- A year ends where the next one begins. -/
theorem yearStart_add_daysFromMarch {year : Int} (hlow : 0 ≤ year) (hhigh : year < 399) :
    yearStart year + daysFromMarch year = yearStart (year + 1) := by
  unfold yearStart daysFromMarch
  simp only [isLeapYear_iff]
  split <;> omega

theorem yearOfPeriod_le_succ (day : Int) : yearOfPeriod day ≤ yearOfPeriod (day + 1) := by
  refine Int.ediv_le_ediv (by decide) ?_
  -- a period of 146096 days ends together with a century of 36524 days
  have hquarter : ∀ n : Int, n / 146096 = n / 36524 / 4 := fun n => by
    rw [Int.ediv_ediv_of_nonneg (by decide)]
    rfl
  have hcentury : day / 36524 ≤ (day + 1) / 36524 := by omega
  have hleap : (day + 1) / 1460 ≤ day / 1460 + 1 := by omega
  rw [hquarter, hquarter]
  omega

theorem yearOfPeriod_mono {a b : Int} (h : a ≤ b) : yearOfPeriod a ≤ yearOfPeriod b :=
  monotone_int_of_le_succ yearOfPeriod_le_succ h

theorem yearOfPeriod_of_ends : ∀ year : Fin 400, yearOfPeriod (yearStart year) = year ∧
    yearOfPeriod (yearStart year + daysFromMarch year - 1) = year := by
  decide +kernel

/-- Every day of a period belongs to one of its years, and lies between the ends of that year. -/
theorem yearOfPeriod_spec {day : Int} (hlow : 0 ≤ day) (hhigh : day < 146097) :
    0 ≤ yearOfPeriod day ∧ yearOfPeriod day < 400 ∧ yearStart (yearOfPeriod day) ≤ day ∧
      day < yearStart (yearOfPeriod day) + daysFromMarch (yearOfPeriod day) := by
  have hends : ∀ year : Int, 0 ≤ year → year < 400 → yearOfPeriod (yearStart year) = year ∧
      yearOfPeriod (yearStart year + daysFromMarch year - 1) = year := by
    intro year h0 h400
    have h := yearOfPeriod_of_ends ⟨year.toNat, by omega⟩
    have hyear : ((year.toNat : Nat) : Int) = year := Int.toNat_of_nonneg h0
    simp only [hyear] at h
    exact h
  have hfirst : 0 ≤ yearOfPeriod day := yearOfPeriod_mono hlow
  have hlast : yearOfPeriod day ≤ 399 := yearOfPeriod_mono (b := 146096) (by omega)
  refine ⟨hfirst, Int.lt_of_le_of_lt hlast (by decide), ?_, ?_⟩
  · by_contra hbefore
    -- then the day belongs to the year before
    have hzero : yearOfPeriod day ≠ 0 := by
      intro hzero
      rw [hzero] at hbefore
      exact hbefore hlow
    have hprevious := (hends (yearOfPeriod day - 1) (by omega) (by omega)).2
    have hnext := yearStart_add_daysFromMarch (show 0 ≤ yearOfPeriod day - 1 by omega) (by omega)
    rw [hnext, Int.sub_add_cancel] at hprevious
    have hle := yearOfPeriod_mono (show day ≤ yearStart (yearOfPeriod day) - 1 by omega)
    omega
  · by_contra hafter
    have hle : yearStart (yearOfPeriod day) + daysFromMarch (yearOfPeriod day) ≤ day := by omega
    -- then the day belongs to the year after, or to the next period
    rcases Int.lt_or_eq_of_le hlast with hlt | heq
    · rw [yearStart_add_daysFromMarch hfirst hlt] at hle
      have hnext := (hends (yearOfPeriod day + 1) (by omega) (by omega)).1
      have hle := yearOfPeriod_mono hle
      omega
    · rw [heq] at hle
      exact absurd (Int.lt_of_le_of_lt hle hhigh) (by decide)

/-! ## Months of a year -/

/-- The day of a year from March on which a month begins, the months counted from March on. -/
def monthStart (month : Int) : Int := (153 * month + 2) / 5

/-- The month of a year from March to which a day of it belongs. -/
def monthOfYear (day : Int) : Int := (5 * day + 2) / 153

/-- The date of a day of a year from March. -/
def ofDayOfYear (year day : Int) : Date :=
  if monthOfYear day < 10 then
    ⟨year, (monthOfYear day + 3).toNat, (day - monthStart (monthOfYear day) + 1).toNat⟩
  else ⟨year + 1, (monthOfYear day - 9).toNat, (day - monthStart (monthOfYear day) + 1).toNat⟩

theorem ofDayNumber_eq (n : Int) : ofDayNumber n =
    let day := (n + 719468) % 146097
    let year := yearOfPeriod day
    ofDayOfYear (year + (n + 719468) / 146097 * 400) (day - yearStart year) := rfl

theorem monthOfYear_spec {day : Int} (hlow : 0 ≤ day) (hhigh : day ≤ 365) :
    0 ≤ monthOfYear day ∧ monthOfYear day ≤ 11 ∧ monthStart (monthOfYear day) ≤ day := by
  unfold monthStart monthOfYear
  omega

theorem dayNumber_ofDayOfYear {year day : Int} (hlow : 0 ≤ day) (hhigh : day ≤ 365) :
    (ofDayOfYear year day).dayNumber =
      year / 400 * 146097 + yearStart (year % 400) + day - 719468 := by
  obtain ⟨hfirst, hlast, hstart⟩ := monthOfYear_spec hlow hhigh
  unfold ofDayOfYear dayNumber yearStart
  split
  · rename_i hmonth
    have hsame : ¬ (monthOfYear day + 3).toNat ≤ 2 := by omega
    have hdate : ((monthOfYear day + 3).toNat : Int) - 3 = monthOfYear day := by omega
    simp only [hsame, ↓reduceIte, hdate]
    unfold monthStart at hstart ⊢
    omega
  · rename_i hmonth
    have hsame : (monthOfYear day - 9).toNat ≤ 2 := by omega
    have hdate : ((monthOfYear day - 9).toNat : Int) + 9 = monthOfYear day := by omega
    simp only [hsame, ↓reduceIte, hdate, Int.add_sub_cancel]
    unfold monthStart at hstart ⊢
    omega

theorem daysFromMarch_periodic (year period : Int) :
    daysFromMarch (year + period * 400) = daysFromMarch year := by
  unfold daysFromMarch
  simp only [isLeapYear_iff]
  split <;> split <;> omega

theorem monthOfYear_fits : ∀ day : Fin 366,
    (day : Int) - monthStart (monthOfYear day) + 1 ≤
      if monthOfYear day = 11 then (if (day : Int) = 365 then 29 else 28)
      else if monthOfYear day = 1 ∨ monthOfYear day = 3 ∨ monthOfYear day = 6 ∨ monthOfYear day = 8
        then 30 else 31 := by
  decide +kernel

theorem ofDayOfYear_fits {year day : Int} (hlow : 0 ≤ day) (hhigh : day < daysFromMarch year) :
    let d := ofDayOfYear year day
    1 ≤ d.month ∧ d.month ≤ 12 ∧ 1 ≤ d.day ∧ d.day ≤ daysInMonth d.year d.month := by
  unfold daysFromMarch at hhigh
  have hday : day ≤ 365 := by split at hhigh <;> omega
  obtain ⟨hfirst, hlast, hstart⟩ := monthOfYear_spec hlow hday
  have hfits := monthOfYear_fits ⟨day.toNat, by omega⟩
  have hcast : ((day.toNat : Nat) : Int) = day := Int.toNat_of_nonneg hlow
  simp only [hcast] at hfits
  intro d
  simp only [d, ofDayOfYear]
  generalize monthOfYear day = month at hfirst hlast hstart hfits ⊢
  -- from March to December, then January and February of the next year
  split
  · refine ⟨?_, ?_, ?_, ?_⟩ <;> simp only
    · omega
    · omega
    · omega
    · rw [daysInMonth]
      split_ifs at hfits ⊢ <;> omega
  · refine ⟨?_, ?_, ?_, ?_⟩ <;> simp only
    · omega
    · omega
    · omega
    · rw [daysInMonth]
      split_ifs at hhigh hfits ⊢ <;> omega

/-! ## Dates of days -/

/-- The day with a number has a date, and the number of that date is the number of the day. -/
theorem dayNumber_ofDayNumber (n : Int) : (ofDayNumber n).dayNumber = n := by
  obtain ⟨hfirst, hlast, hstart, hend⟩ :=
    yearOfPeriod_spec (show 0 ≤ (n + 719468) % 146097 by omega) (by omega)
  have hdays : daysFromMarch (yearOfPeriod ((n + 719468) % 146097)) ≤ 366 := by
    unfold daysFromMarch
    split <;> omega
  rw [ofDayNumber_eq, dayNumber_ofDayOfYear (by omega) (by omega)]
  generalize yearOfPeriod ((n + 719468) % 146097) = year at hfirst hlast hstart ⊢
  have hperiod : (year + (n + 719468) / 146097 * 400) / 400 = (n + 719468) / 146097 := by omega
  have hyear : (year + (n + 719468) / 146097 * 400) % 400 = year := by omega
  rw [hperiod, hyear]
  omega

theorem isValid_ofDayNumber {n : Int} (hlow : firstYear ≤ (ofDayNumber n).year)
    (hhigh : (ofDayNumber n).year ≤ lastYear) : (ofDayNumber n).IsValid := by
  obtain ⟨hfirst, hlast, hstart, hend⟩ :=
    yearOfPeriod_spec (show 0 ≤ (n + 719468) % 146097 by omega) (by omega)
  refine ⟨hlow, hhigh, ?_⟩
  rw [ofDayNumber_eq]
  refine ofDayOfYear_fits (by omega) ?_
  rw [daysFromMarch_periodic]
  omega

end Date

/-! ## Points in time -/

namespace DateTime

/-- The point in time that the date and the time of day of another one stand for: a leap second
behind a second that is not the last of a minute is shown as the next second. -/
def shown (t : DateTime) : DateTime :=
  if 1000000000 ≤ t.nanos ∧ t.seconds % 60 ≠ 59 then
    ⟨t.seconds + 1, t.nanos - 1000000000, by have := t.nanos_lt; omega⟩
  else t

/-- A point in time is shown as it is unless it lies in a leap second where no minute ends. -/
theorem shown_eq_self_iff (t : DateTime) :
    t.shown = t ↔ (1000000000 ≤ t.nanos → t.seconds % 60 = 59) := by
  unfold shown
  split
  · rename_i h
    refine ⟨fun heq => ?_, fun hleap => absurd (hleap h.1) h.2⟩
    have hseconds : t.seconds + 1 = t.seconds := congrArg seconds heq
    omega
  · rename_i h
    exact iff_of_true rfl fun hnanos => Decidable.not_not.1 fun hne => h ⟨hnanos, hne⟩

theorem isValid_clock (t : DateTime) : t.clock.IsValid := by
  have hnanos := t.nanos_lt
  unfold clock Clock.IsValid
  simp only
  exact ⟨by omega, by omega, by omega, Nat.mod_lt _ (by decide)⟩

/-- The date and the time of day of a point in time lead to the one that they show. -/
theorem ofCivil?_date_clock {t : DateTime} (hlow : firstYear ≤ t.date.year)
    (hhigh : t.date.year ≤ lastYear) : ofCivil? t.date t.clock 0 = some t.shown := by
  have hdate : t.date.IsValid := Date.isValid_ofDayNumber hlow hhigh
  have hnumber : t.date.dayNumber = t.seconds / 86400 := Date.dayNumber_ofDayNumber _
  have hnanos := t.nanos_lt
  have hsecond : (t.seconds % 86400).toNat % 60 + t.nanos / 1000000000 = 60 ↔
      1000000000 ≤ t.nanos ∧ t.seconds % 60 = 59 := by omega
  rw [ofCivil?, if_pos ⟨hdate, t.isValid_clock⟩, hnumber]
  simp only [clock, hsecond]
  by_cases hleap : 1000000000 ≤ t.nanos → t.seconds % 60 = 59
  · have hunix : ofUnix? t.seconds t.nanos = some t := dif_pos ⟨hnanos, hleap⟩
    rw [t.shown_eq_self_iff.2 hleap, ← hunix]
    exact congrArg₂ ofUnix? (by split <;> omega) (by split <;> omega)
  · -- the clock is a second ahead, and has not come to 60
    have hahead : 1000000000 ≤ t.nanos ∧ t.seconds % 60 ≠ 59 := Classical.not_imp.1 hleap
    have hunix : ofUnix? (t.seconds + 1) (t.nanos - 1000000000) = some t.shown := by
      rw [shown, if_pos hahead]
      exact dif_pos ⟨by omega, by omega⟩
    rw [if_neg (by omega), if_neg (by omega), ← hunix]
    exact congrArg₂ ofUnix? (by omega) (by omega)

end DateTime

end DuckTyping.Time
