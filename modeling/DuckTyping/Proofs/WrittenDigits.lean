import DuckTyping.Number.Integer
import DuckTyping.Text.Scan
import Mathlib.Algebra.Group.Nat.Defs
import Mathlib.Data.List.Basic

set_option autoImplicit false

/-!
# Digits are read as they are written

Decimal digits write the number that they are read as, with zeros in front or without, and a scanner
takes them off the front of a text if they fill their width. Hexadecimal digits write what is left
of a number in their width. A 64-bit integer is read back from its text.
-/

namespace DuckTyping

namespace Number

/-! ## Decimal digits -/

theorem digit?_of_isDigit {c : Char} (h : c.isDigit = true) :
    digit? c = some (c.toNat - '0'.toNat) := by
  rw [Char.isDigit, Bool.and_eq_true, decide_eq_true_eq, decide_eq_true_eq] at h
  exact if_pos h

theorem isDigit_of_digit? {c : Char} {d : Nat} (h : digit? c = some d) :
    c.isDigit = true ∧ d = c.toNat - '0'.toNat := by
  unfold digit? at h
  split at h
  · rename_i hrange
    rw [Char.isDigit, Bool.and_eq_true, decide_eq_true_eq, decide_eq_true_eq]
    exact ⟨hrange, (Option.some.inj h).symm⟩
  · cases h

theorem isDigit_of_isDigit {c : Char} (h : c.isDigit = true) : isDigit c = true := by
  rw [isDigit, digit?_of_isDigit h, Option.isSome_some]

theorem digitsValue_eq_ofDigitChars {ds : List Char} (h : ∀ c ∈ ds, c.isDigit = true) :
    digitsValue ds = Nat.ofDigitChars 10 ds 0 := by
  rw [digitsValue, Nat.ofDigitChars_eq_foldl]
  refine List.foldl_ext _ _ 0 fun acc c hc => ?_
  rw [digit?_of_isDigit (h c hc), Option.getD_some]

variable {width n : Nat}

theorem isDigit_of_mem_renderPadded {c : Char} (h : c ∈ renderPadded width n) :
    c.isDigit = true := by
  rcases List.mem_append.1 h with h | h
  · rw [List.eq_of_mem_replicate h]
    rfl
  · exact Nat.isDigit_of_mem_toDigits (by decide) (by decide) h

theorem digitsValue_renderPadded (width n : Nat) : digitsValue (renderPadded width n) = n := by
  rw [digitsValue_eq_ofDigitChars fun c => isDigit_of_mem_renderPadded, renderPadded,
    Nat.ofDigitChars_append, Nat.ofDigitChars_replicate_zero, Nat.mul_zero,
    Nat.ofDigitChars_ten_toDigits]

theorem length_renderPadded (hwidth : 0 < width) (h : n < 10 ^ width) :
    (renderPadded width n).length = width := by
  have hlength := (Nat.length_toDigits_le_iff (b := 10) (by decide) hwidth).2 h
  rw [renderPadded, List.length_append, List.length_replicate]
  omega

/-- Digits are read one after the other as long as the number that they write is within the limit.
-/
theorem accumulate_of_le {limit : Nat} {overflow : IntegerFault} {ds : List Char} {acc : Nat}
    (hdigits : ∀ c ∈ ds, c.isDigit = true) (h : Nat.ofDigitChars 10 ds acc ≤ limit) :
    accumulate limit overflow acc ds = .ok (Nat.ofDigitChars 10 ds acc) := by
  induction ds generalizing acc with
  | nil => rfl
  | cons c rest ih =>
    rw [List.forall_mem_cons] at hdigits
    rw [Nat.ofDigitChars_cons] at h ⊢
    have hacc : 10 * acc + (c.toNat - '0'.toNat) ≤ limit := by
      rw [Nat.ofDigitChars_eq_ofDigitChars_zero] at h
      have hpow : 0 < 10 ^ rest.length := Nat.pow_pos (by decide)
      exact Nat.le_trans (Nat.le_trans (Nat.le_mul_of_pos_left _ hpow) (Nat.le_add_right _ _)) h
    rw [accumulate, digit?_of_isDigit hdigits.1]
    simp only [hacc, ↓reduceIte]
    exact ih hdigits.2 h

/-- Digits that are read are decimal digits, and the number that they write is within the limit. -/
theorem of_accumulate_eq_ok {limit acc : Nat} {overflow : IntegerFault} {ds : List Char}
    (h : accumulate limit overflow acc ds = .ok n) (hacc : acc ≤ limit) :
    (∀ c ∈ ds, c.isDigit = true) ∧ Nat.ofDigitChars 10 ds acc = n ∧ n ≤ limit := by
  induction ds generalizing acc with
  | nil =>
    cases h
    exact ⟨fun c hc => absurd hc List.not_mem_nil, rfl, hacc⟩
  | cons c rest ih =>
    rw [accumulate] at h
    split at h
    · cases h
    · rename_i d hd
      obtain ⟨hdigit, hvalue⟩ := isDigit_of_digit? hd
      split at h
      · rename_i hnext
        obtain ⟨hrest, hwritten, hlimit⟩ := ih h hnext
        rw [Nat.ofDigitChars_cons, ← hvalue]
        exact ⟨List.forall_mem_cons.2 ⟨hdigit, hrest⟩, hwritten, hlimit⟩
      · cases h

/-- The characters are one or more decimal digits that write the number. -/
structure IsNumeral (ds : List Char) (n : Nat) : Prop where
  nonempty : ds ≠ []
  digits : ∀ c ∈ ds, c.isDigit = true
  value : Nat.ofDigitChars 10 ds 0 = n

theorem isNumeral_toDigits (n : Nat) : IsNumeral (Nat.toDigits 10 n) n where
  nonempty := Nat.toDigits_ne_nil
  digits _ := Nat.isDigit_of_mem_toDigits (by decide) (by decide)
  value := Nat.ofDigitChars_ten_toDigits

/-- The numerals of the numbers within the limit are read, and nothing else. -/
theorem magnitude_eq_ok_iff {limit : Nat} {overflow : IntegerFault} {ds : List Char} :
    magnitude limit overflow ds = .ok n ↔ IsNumeral ds n ∧ n ≤ limit := by
  cases ds with
  | nil =>
    constructor
    · intro h
      cases h
    · intro h
      exact absurd rfl h.1.nonempty
  | cons c rest =>
    constructor
    · intro h
      obtain ⟨hdigits, hvalue, hlimit⟩ := of_accumulate_eq_ok h (Nat.zero_le limit)
      exact ⟨⟨List.cons_ne_nil c rest, hdigits, hvalue⟩, hlimit⟩
    · rintro ⟨⟨_, hdigits, rfl⟩, hlimit⟩
      exact accumulate_of_le hdigits hlimit

theorem magnitude_toDigits {limit : Nat} {overflow : IntegerFault} (h : n ≤ limit) :
    magnitude limit overflow (Nat.toDigits 10 n) = .ok n :=
  magnitude_eq_ok_iff.2 ⟨isNumeral_toDigits n, h⟩

theorem parseInt64_toDigits (n : Nat) :
    parseInt64 (Nat.toDigits 10 n) =
      (magnitude (Nat.pow 2 63 - 1) .tooLarge (Nat.toDigits 10 n)).map fun n => Int64.ofInt n := by
  have hdigits : ∀ c ∈ Nat.toDigits 10 n, c.isDigit = true := fun c =>
    Nat.isDigit_of_mem_toDigits (by decide) (by decide)
  unfold parseInt64
  split
  · rename_i hnil
    exact absurd hnil Nat.toDigits_ne_nil
  · rename_i rest hds
    exact absurd (hdigits '+' (hds ▸ List.mem_cons_self)) (by decide)
  · rename_i rest hds
    exact absurd (hdigits '-' (hds ▸ List.mem_cons_self)) (by decide)
  · rfl

theorem parseInt64_renderInt64 (n : Int64) : parseInt64 (renderInt64 n) = .ok n := by
  have hlow := n.le_toInt
  have hhigh := n.toInt_lt
  rw [renderInt64, renderInt]
  split
  · have hlimit : n.toInt.natAbs ≤ Nat.pow 2 63 := by
      change n.toInt.natAbs ≤ 2 ^ 63
      omega
    have hneg : -(n.toInt.natAbs : Int) = n.toInt := by omega
    rw [parseInt64, magnitude_toDigits hlimit]
    change Except.ok (Int64.ofInt (-(n.toInt.natAbs : Int))) = .ok n
    rw [hneg, Int64.ofInt_toInt]
  · have hlimit : n.toInt.natAbs ≤ Nat.pow 2 63 - 1 := by
      change n.toInt.natAbs ≤ 2 ^ 63 - 1
      omega
    have hpos : (n.toInt.natAbs : Int) = n.toInt := by omega
    rw [parseInt64_toDigits, magnitude_toDigits hlimit]
    change Except.ok (Int64.ofInt (n.toInt.natAbs : Int)) = .ok n
    rw [hpos, Int64.ofInt_toInt]

/-! ## Hexadecimal digits -/

theorem hexDigit?_digitChar : ∀ d < 16, hexDigit? (Nat.digitChar d) = some d := by decide

theorem isHexDigit_of_mem_renderHex {c : Char} (h : c ∈ renderHex width n) :
    isHexDigit c = true := by
  induction width generalizing n with
  | zero => exact absurd h List.not_mem_nil
  | succ width ih =>
    rcases List.mem_append.1 h with h | h
    · exact ih h
    · rw [List.mem_singleton.1 h, isHexDigit,
        hexDigit?_digitChar _ (Nat.mod_lt _ (by decide)), Option.isSome_some]

theorem range_of_isHexDigit {c : Char} (h : isHexDigit c = true) : '0' ≤ c ∧ c ≤ 'f' := by
  unfold isHexDigit hexDigit? at h
  split at h
  · rename_i hrange
    exact ⟨hrange.1, UInt32.le_trans hrange.2 (by decide)⟩
  · split at h
    · rename_i hrange
      exact ⟨UInt32.le_trans (by decide) hrange.1, hrange.2⟩
    · split at h
      · rename_i hrange
        exact ⟨UInt32.le_trans (by decide) hrange.1, UInt32.le_trans hrange.2 (by decide)⟩
      · cases h

/-- The digits of a number write what is left of it in their width. -/
theorem hexValue_renderHex (width n : Nat) : hexValue (renderHex width n) = n % 16 ^ width := by
  induction width generalizing n with
  | zero => rw [Nat.pow_zero, Nat.mod_one]; rfl
  | succ width ih =>
    have hdigit := hexDigit?_digitChar (n % 16) (Nat.mod_lt _ (by decide))
    have hlast : hexValue (renderHex (width + 1) n) =
        16 * hexValue (renderHex width (n / 16)) + n % 16 := by
      rw [renderHex, hexValue, List.foldl_append, List.foldl_cons, List.foldl_nil, hdigit,
        Option.getD_some]
      rfl
    rw [hlast, ih, Nat.pow_succ, Nat.mul_comm (16 ^ width) 16, Nat.mod_mul, Nat.add_comm]

/-- Two groups of digits in a row are the digits of the whole number. -/
theorem renderHex_append (m width n : Nat) :
    renderHex m (n / 16 ^ width) ++ renderHex width n = renderHex (m + width) n := by
  induction width generalizing n with
  | zero => rw [Nat.pow_zero, Nat.div_one, Nat.add_zero, renderHex, List.append_nil]
  | succ width ih =>
    rw [renderHex, ← List.append_assoc, ← Nat.add_assoc, renderHex, ← ih, Nat.pow_succ,
      Nat.mul_comm (16 ^ width) 16, Nat.div_div_eq_div_mul]

end Number

namespace Text

open Number

theorem scanDigits_renderPadded {width n : Nat} (hwidth : 0 < width) (h : n < 10 ^ width)
    (rest : List Char) : scanDigits width (renderPadded width n ++ rest) = some (n, rest) := by
  have hlength := length_renderPadded hwidth h
  have htake : (renderPadded width n ++ rest).take width = renderPadded width n :=
    List.take_left' hlength
  have hdrop : (renderPadded width n ++ rest).drop width = rest := List.drop_left' hlength
  have hall : (renderPadded width n).all isDigit = true :=
    List.all_eq_true.2 fun c hc => isDigit_of_isDigit (isDigit_of_mem_renderPadded hc)
  rw [scanDigits]
  simp only [htake, hdrop, hlength, hall, digitsValue_renderPadded, and_self, ↓reduceIte]

@[simp] theorem scanChar_cons (c : Char) (rest : List Char) : scanChar c (c :: rest) = some rest :=
  if_pos rfl

end Text

end DuckTyping
