import DuckTyping.Proofs.CivilDates
import DuckTyping.Proofs.WrittenScalars

set_option autoImplicit false

/-!
# Time stamps are read back

A point in time of a year with four digits is written as a time stamp, and the time stamp is read as
the point in time that it shows: date and time of day are taken off digit by digit, the fraction
counts nanoseconds whether it has three, six or nine digits or none, and a second numbered 60 is a
leap second again. That is the point in time that was written, unless it lies in a leap second where
no minute ends: such a one is shown as the second that follows.
-/

namespace DuckTyping.Time

open DuckTyping.Number DuckTyping.Text

/-! ## Fractions -/

theorem scanNanos_append {ds : List Char} (hdigits : ∀ c ∈ ds, c.isDigit = true) (hne : ds ≠ [])
    (hlength : ds.length ≤ 9) {c : Char} (hc : isDigit c = false) (rest : List Char) :
    scanNanos (ds ++ c :: rest) = some (digitsValue ds * 10 ^ (9 - ds.length), c :: rest) := by
  have hall : ∀ d ∈ ds, isDigit d = true := fun d hd => isDigit_of_isDigit (hdigits d hd)
  have hstop : ¬ isDigit c = true := Bool.eq_false_iff.1 hc
  have htake : (ds ++ c :: rest).takeWhile isDigit = ds := by
    rw [List.takeWhile_append_of_pos hall, List.takeWhile_cons_of_neg hstop, List.append_nil]
  have hdrop : (ds ++ c :: rest).dropWhile isDigit = c :: rest := by
    rw [List.dropWhile_append_of_pos hall, List.dropWhile_cons_of_neg hstop]
  have hempty : ¬ ds.isEmpty = true := fun h => hne (List.isEmpty_iff.1 h)
  simp only [scanNanos, htake, hdrop, if_neg hempty, List.take_of_length_le hlength]
  rfl

/-- A fraction is read back where no digit and no point follows it. -/
theorem scanFraction_renderFraction {nanos : Nat} (h : nanos < 1000000000) {c : Char}
    (hdigit : isDigit c = false) (hpoint : c ≠ '.') (rest : List Char) :
    scanFraction (renderFraction nanos ++ c :: rest) = some (nanos, c :: rest) := by
  have hgroups : ∀ width n, 0 < width → width ≤ 9 → n < 10 ^ width →
      n * 10 ^ (9 - width) = nanos →
      scanFraction ('.' :: renderPadded width n ++ c :: rest) = some (nanos, c :: rest) := by
    intro width n hpos hle hlt hvalue
    have hlength := length_renderPadded hpos hlt
    have hne : renderPadded width n ≠ [] := List.ne_nil_of_length_pos (by omega)
    have hread := scanNanos_append (fun _ => isDigit_of_mem_renderPadded) hne (by omega) hdigit rest
    rw [hlength, digitsValue_renderPadded, hvalue] at hread
    exact hread
  unfold renderFraction
  split
  · rename_i hzero
    rw [hzero, List.nil_append]
    unfold scanFraction
    split
    · rename_i more heq
      exact absurd (List.cons.inj heq).1 hpoint
    · rfl
  · split
    · exact hgroups 3 (nanos / 1000000) (by decide) (by decide) (by omega) (by omega)
    · split
      · exact hgroups 6 (nanos / 1000) (by decide) (by decide) (by omega) (by omega)
      · exact hgroups 9 nanos (by decide) (by decide) h (by omega)

/-! ## Dates and times of day -/

theorem renderYear_of_four {year : Int} (hlow : 0 ≤ year) (hhigh : year ≤ 9999) :
    renderYear year = renderPadded 4 year.toNat :=
  if_pos ⟨hlow, hhigh⟩

theorem scanDigits_two {n : Nat} (h : n < 100) (rest : List Char) :
    scanDigits 2 (renderPadded 2 n ++ rest) = some (n, rest) :=
  scanDigits_renderPadded (by decide) h rest

theorem scanFullDate_render {d : Date} (hlow : 0 ≤ d.year) (hhigh : d.year ≤ 9999)
    (hmonth : d.month < 100) (hday : d.day < 100) (rest : List Char) :
    scanFullDate (d.render ++ rest) = some (d, rest) := by
  have hyear := scanDigits_renderPadded (show 0 < 4 by decide)
    (show d.year.toNat < 10 ^ 4 by omega)
  have hcast : (d.year.toNat : Int) = d.year := Int.toNat_of_nonneg hlow
  simp only [scanFullDate, Date.render, renderYear_of_four hlow hhigh, List.append_assoc,
    List.cons_append, hyear, scanDigits_two hmonth, scanDigits_two hday, scanChar_cons, bind,
    Option.bind_some, hcast]
  rfl

/-- A time of day is read back where no digit and no point follows it. -/
theorem scanFullClock_render {k : Clock} (hk : k.IsValid) {c : Char} (hdigit : isDigit c = false)
    (hpoint : c ≠ '.') (rest : List Char) :
    scanFullClock (k.render ++ c :: rest) = some (k, c :: rest) := by
  obtain ⟨hhour, hminute, hsecond, hnanos⟩ := hk
  simp only [scanFullClock, Clock.render, List.append_assoc, List.cons_append,
    scanDigits_two (show k.hour < 100 by omega), scanDigits_two (show k.minute < 100 by omega),
    scanDigits_two (show k.second < 100 by omega), scanChar_cons, bind, Option.bind_some,
    scanFraction_renderFraction hnanos hdigit hpoint]
  rfl

/-! ## Time stamps -/

/-- A time stamp reads as the point in time that it shows. -/
theorem parseStamp_render {t : DateTime} (hlow : 0 ≤ t.date.year) (hhigh : t.date.year ≤ 9999) :
    parseStamp t.render = some t.shown := by
  have hreach : firstYear ≤ t.date.year ∧ t.date.year ≤ lastYear := by
    unfold firstYear lastYear
    omega
  have hvalid : t.date.IsValid := Date.isValid_ofDayNumber hreach.1 hreach.2
  obtain ⟨-, -, -, hmonth, -, hday⟩ := hvalid
  have hlength : daysInMonth t.date.year t.date.month ≤ 31 := by
    unfold daysInMonth
    split_ifs <;> decide
  have hdate := scanFullDate_render hlow hhigh (by omega) (by omega)
  have hclock := scanFullClock_render t.isValid_clock (c := '+') rfl (by decide)
  have hoffset : scanOffset ['+', '0', '0', ':', '0', '0'] = some (0, []) := rfl
  simp only [parseStamp, DateTime.render, List.append_assoc, List.cons_append, hdate, hclock,
    scanChar_cons, Option.some_or, hoffset, bind, Option.bind_some]
  exact DateTime.ofCivil?_date_clock hreach.1 hreach.2

theorem isWhiteSpace_of_mem_render {t : DateTime} (hlow : 0 ≤ t.date.year)
    (hhigh : t.date.year ≤ 9999) : ∀ c ∈ t.render, isWhiteSpace c = false := by
  have hnumber : ∀ width n, ∀ c ∈ renderPadded width n, isWhiteSpace c = false :=
    fun width n c hc => isWhiteSpace_of_isDigit (isDigit_of_mem_renderPadded hc)
  have hfraction : ∀ nanos, ∀ c ∈ renderFraction nanos, isWhiteSpace c = false := by
    intro nanos
    unfold renderFraction
    split_ifs
    · exact fun c hc => absurd hc List.not_mem_nil
    all_goals exact List.forall_mem_cons.2 ⟨rfl, hnumber _ _⟩
  have hdate : ∀ c ∈ t.date.render, isWhiteSpace c = false := by
    simp only [Date.render, renderYear_of_four hlow hhigh, List.forall_mem_append,
      List.forall_mem_cons]
    exact ⟨⟨hnumber _ _, rfl, hnumber _ _⟩, rfl, hnumber _ _⟩
  have hclock : ∀ c ∈ t.clock.render, isWhiteSpace c = false := by
    simp only [Clock.render, List.forall_mem_append, List.forall_mem_cons]
    exact ⟨⟨⟨hnumber _ _, rfl, hnumber _ _⟩, rfl, hnumber _ _⟩, hfraction _⟩
  rw [DateTime.render, List.forall_mem_append, List.forall_mem_append, List.forall_mem_cons]
  exact ⟨⟨hdate, rfl, hclock⟩, isWhiteSpace_of_all rfl⟩

end DuckTyping.Time

namespace DuckTyping.Value

open DuckTyping.Time

/-- A point in time is written as a time stamp, and that is read as the point in time it shows. -/
theorem written_dateTime {t : DateTime} (hlow : 0 ≤ t.date.year) (hhigh : t.date.year ≤ 9999) :
    Registry.default.convert (.dateTime t) .text = .ok (.text (String.ofList t.render)) ∧
      ∀ before after : String, Text.IsBlank before → Text.IsBlank after →
        Registry.default.convert (.text (before ++ String.ofList t.render ++ after)) .dateTime =
          .ok (.dateTime t.shown) := by
  have hread : Conversion.readDateTime t.render .dateTime = .ok (.dateTime t.shown) := by
    rw [Conversion.readDateTime, parseDateTime, parseStamp_render hlow hhigh, Option.some_or]
  exact written_and_read (t := .dateTime) rfl rfl (by decide) (by decide) (by decide) rfl rfl rfl
    (isWhiteSpace_of_mem_render hlow hhigh) hread

/-- **Points in time are read back from their texts, but for leap seconds where no minute ends.**
Every point in time of the years 0 to 9999, to the nanosecond, converts to a text, and the text
converts to the point in time that it shows, whatever white space stands around it. That is the very
same point in time exactly if it has fewer than a billion nanoseconds or its second is the last of a
minute. -/
theorem dateTime_is_read_back (t : DateTime) (hlow : 0 ≤ t.date.year)
    (hhigh : t.date.year ≤ 9999) :
    ∃ s, Registry.default.convert (.dateTime t) .text = .ok (.text s) ∧
      Registry.default.convert (.text s) .dateTime = .ok (.dateTime t.shown) ∧
      (∀ before after : String, Text.IsBlank before → Text.IsBlank after →
        Registry.default.convert (.text (before ++ s ++ after)) .dateTime =
          .ok (.dateTime t.shown)) ∧
      (t.shown = t ↔ (1000000000 ≤ t.nanos → t.seconds % 60 = 59)) := by
  obtain ⟨htext, hback⟩ := written_dateTime hlow hhigh
  have hnone : Text.IsBlank "" := fun c hc => absurd hc List.not_mem_nil
  have hplain := hback "" "" hnone hnone
  rw [String.empty_append, String.append_empty] at hplain
  exact ⟨_, htext, hplain, hback, t.shown_eq_self_iff⟩

/-- The middle of the leap second at the end of the year 2016. -/
theorem dateTime_is_read_back_leap_second :
    let t : DateTime := ⟨1483228799, 1500000000, by decide⟩
    0 ≤ t.date.year ∧ t.date.year ≤ 9999 ∧ t.render = "2016-12-31T23:59:60.500+00:00".toList ∧
      (1000000000 ≤ t.nanos → t.seconds % 60 = 59) ∧
      ∃ s, Registry.default.convert (.dateTime t) .text = .ok (.text s) ∧
        Registry.default.convert (.text s) .dateTime = .ok (.dateTime t.shown) ∧
        (∀ before after : String, Text.IsBlank before → Text.IsBlank after →
          Registry.default.convert (.text (before ++ s ++ after)) .dateTime =
            .ok (.dateTime t.shown)) ∧
        (t.shown = t ↔ (1000000000 ≤ t.nanos → t.seconds % 60 = 59)) := by
  intro t
  have hlow : 0 ≤ t.date.year := by decide
  have hhigh : t.date.year ≤ 9999 := by decide
  exact ⟨hlow, hhigh, by decide, fun _ => by decide, dateTime_is_read_back t hlow hhigh⟩

/-- A leap second behind the first second of the year 1970 is written as the second of these, and
read back as that. -/
theorem dateTime_is_not_read_back :
    let t : DateTime := ⟨0, 1333333333, by decide⟩
    let s := "1970-01-01T00:00:01.333333333+00:00"
    0 ≤ t.date.year ∧ t.date.year ≤ 9999 ∧
      Registry.default.convert (.dateTime t) .text = .ok (.text s) ∧
      Registry.default.convert (.text s) .dateTime =
        .ok (.dateTime ⟨1, 333333333, by decide⟩) ∧
      Registry.default.convert (.text s) .dateTime ≠ .ok (.dateTime t) := by
  intro t s
  have hlow : 0 ≤ t.date.year := by decide
  have hhigh : t.date.year ≤ 9999 := by decide
  have hrender : String.ofList t.render = s := by decide
  have hshown : t.shown = ⟨1, 333333333, by decide⟩ := by decide
  obtain ⟨htext, hback⟩ := written_dateTime hlow hhigh
  have hnone : Text.IsBlank "" := fun c hc => absurd hc List.not_mem_nil
  have hread := hback "" "" hnone hnone
  rw [String.empty_append, String.append_empty, hrender, hshown] at hread
  rw [hrender] at htext
  refine ⟨hlow, hhigh, htext, hread, fun h => ?_⟩
  have hsame := Value.dateTime.inj (Except.ok.inj (hread.symm.trans h))
  exact absurd (congrArg DateTime.seconds hsame) (by decide)

end DuckTyping.Value
