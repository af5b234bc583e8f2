import DuckTyping.Proofs.WrittenScalars
import Mathlib.Algebra.Group.Int.Defs

set_option autoImplicit false

/-!
# Texts of integers

A text writes an integer if it consists of one or more ASCII digits with at most one sign in front.
Zeros in front do not count, and neither does the number of digits, but the number has to fit into
64 bits. The reader takes these texts and no others: it looks at one digit after another and gives
up at the first that leads out of range, which no later digit could make good.
-/

namespace DuckTyping

namespace Number

/-! ## The grammar of integers -/

/-- The characters write an integer: an optional sign and one or more digits. -/
inductive WritesInteger : List Char → Int → Prop
  | unsigned {ds : List Char} {n : Nat} (h : IsNumeral ds n) : WritesInteger ds n
  | positive {ds : List Char} {n : Nat} (h : IsNumeral ds n) : WritesInteger ('+' :: ds) n
  | negative {ds : List Char} {n : Nat} (h : IsNumeral ds n) : WritesInteger ('-' :: ds) (-n)

variable {c : Char} {cs ds : List Char} {m : Int}

theorem not_isNumeral_cons {n : Nat} (hc : c.isDigit = false) : ¬ IsNumeral (c :: ds) n := by
  intro h
  have hdigit := h.digits c List.mem_cons_self
  rw [hc] at hdigit
  cases hdigit

theorem not_writesInteger_nil : ¬ WritesInteger [] m := by
  intro h
  cases h with
  | unsigned h => exact h.nonempty rfl

theorem writesInteger_positive_iff :
    WritesInteger ('+' :: ds) m ↔ ∃ n : Nat, IsNumeral ds n ∧ (n : Int) = m := by
  constructor
  · intro h
    cases h with
    | unsigned h => exact absurd h (not_isNumeral_cons rfl)
    | positive h => exact ⟨_, h, rfl⟩
  · rintro ⟨n, h, rfl⟩
    exact .positive h

theorem writesInteger_negative_iff :
    WritesInteger ('-' :: ds) m ↔ ∃ n : Nat, IsNumeral ds n ∧ (-n : Int) = m := by
  constructor
  · intro h
    generalize htext : '-' :: ds = text at h
    cases h with
    | unsigned h => exact absurd (htext ▸ h) (not_isNumeral_cons rfl)
    | positive h => cases htext
    | negative h =>
      cases htext
      exact ⟨_, h, rfl⟩
  · rintro ⟨n, h, rfl⟩
    exact .negative h

theorem writesInteger_unsigned_iff (hplus : ∀ ds, cs ≠ '+' :: ds) (hminus : ∀ ds, cs ≠ '-' :: ds) :
    WritesInteger cs m ↔ ∃ n : Nat, IsNumeral cs n ∧ (n : Int) = m := by
  constructor
  · intro h
    cases h with
    | unsigned h => exact ⟨_, h, rfl⟩
    | positive h => exact absurd rfl (hplus _)
    | negative h => exact absurd rfl (hminus _)
  · rintro ⟨n, h, rfl⟩
    exact .unsigned h

/-! ## What the reader takes -/

/-- A magnitude is read with its sign if it leads to an integer of 64 bits: the limit allows
exactly for those. -/
theorem map_magnitude_eq_ok_iff {limit : Nat} {overflow : IntegerFault} {signed : Int → Int}
    (hlimit : ∀ k : Nat, k ≤ limit ↔ -2 ^ 63 ≤ signed k ∧ signed k < 2 ^ 63) {n : Int64} :
    ((magnitude limit overflow ds).map fun k : Int => Int64.ofInt (signed k)) = .ok n ↔
      ∃ k : Nat, IsNumeral ds k ∧ signed k = n.toInt := by
  constructor
  · intro h
    cases hread : magnitude limit overflow ds with
    | error fault =>
      rw [hread] at h
      cases h
    | ok k =>
      rw [hread] at h
      cases h
      obtain ⟨hnumeral, hk⟩ := magnitude_eq_ok_iff.1 hread
      obtain ⟨hlow, hhigh⟩ := (hlimit k).1 hk
      exact ⟨k, hnumeral, (Int64.toInt_ofInt_of_le hlow hhigh).symm⟩
  · rintro ⟨k, hnumeral, hk⟩
    have hfits : k ≤ limit := (hlimit k).2 ⟨hk ▸ n.le_toInt, hk ▸ n.toInt_lt⟩
    rw [magnitude_eq_ok_iff.2 ⟨hnumeral, hfits⟩]
    change Except.ok (Int64.ofInt (signed k)) = .ok n
    rw [hk, Int64.ofInt_toInt]

theorem le_positive_limit (k : Nat) :
    k ≤ Nat.pow 2 63 - 1 ↔ -2 ^ 63 ≤ (k : Int) ∧ (k : Int) < 2 ^ 63 := by
  change k ≤ 2 ^ 63 - 1 ↔ _
  omega

/-- There is one more magnitude behind a minus. -/
theorem le_negative_limit (k : Nat) :
    k ≤ Nat.pow 2 63 ↔ -2 ^ 63 ≤ (-k : Int) ∧ (-k : Int) < 2 ^ 63 := by
  change k ≤ 2 ^ 63 ↔ _
  omega

/-- The reader takes exactly the texts that write an integer of 64 bits. -/
theorem parseInt64_eq_ok_iff {n : Int64} : parseInt64 cs = .ok n ↔ WritesInteger cs n.toInt := by
  unfold parseInt64
  split
  · constructor
    · intro h
      cases h
    · intro h
      exact absurd h not_writesInteger_nil
  · rw [writesInteger_positive_iff]
    exact map_magnitude_eq_ok_iff le_positive_limit
  · rw [writesInteger_negative_iff]
    exact map_magnitude_eq_ok_iff le_negative_limit
  · rename_i hplus hminus
    rw [writesInteger_unsigned_iff hplus hminus]
    exact map_magnitude_eq_ok_iff le_positive_limit

end Number

open Number

namespace Conversion

theorem readInteger_eq_ok_iff {cs : List Char} {t : ValueType} {v : Value} :
    readInteger cs t = .ok v ↔
      ∃ n : Int, WritesInteger cs n ∧ -2 ^ 63 ≤ n ∧ n < 2 ^ 63 ∧ v = .int (Int64.ofInt n) := by
  have hread : readInteger cs t = .ok v ↔ ∃ k, parseInt64 cs = .ok k ∧ Value.int k = v := by
    unfold readInteger
    split
    · rename_i k hk
      simp [hk]
    · rename_i fault hfault
      simp [hfault]
  rw [hread]
  constructor
  · rintro ⟨k, hk, rfl⟩
    refine ⟨k.toInt, parseInt64_eq_ok_iff.1 hk, k.le_toInt, k.toInt_lt, ?_⟩
    rw [Int64.ofInt_toInt]
  · rintro ⟨n, hn, hlow, hhigh, rfl⟩
    refine ⟨Int64.ofInt n, parseInt64_eq_ok_iff.2 ?_, rfl⟩
    rw [Int64.toInt_ofInt_of_le hlow hhigh]
    exact hn

/-- A text that is not read as an integer is refused for what is wrong with it. -/
theorem exists_fault_of_readInteger {cs : List Char} {t : ValueType}
    (h : ∀ v, readInteger cs t ≠ .ok v) :
    ∃ fault, readInteger cs t = .error (.integer fault) := by
  unfold readInteger at h ⊢
  split at h
  · exact absurd rfl (h _)
  · rename_i fault _
    exact ⟨fault, rfl⟩

end Conversion

namespace Registry

theorem convert_integer (s : String) :
    Registry.default.convert (.text s) .integer =
      Conversion.reading Conversion.readInteger (.text s) .integer := by
  have hfind : Registry.default.find? .text .integer =
      some (Conversion.reading Conversion.readInteger) := rfl
  exact convert_of_find? (v := .text s) (t := .integer) rfl (by decide) (by decide)
    (show TypeKind.text ≠ .integer by decide) hfind

theorem convert_integer_eq_ok_iff {s : String} {v : Value} :
    Registry.default.convert (.text s) .integer = .ok v ↔
      Conversion.readInteger (Text.trim s.toList) .integer = .ok v := by
  rw [convert_integer, Conversion.reading]
  split <;> simp_all

/-- **Texts of integers and identifiers are exact.** Every integer of 64 bits and every identifier
is written as a text and read back from it, whatever white space stands around the text. A text is
read as an integer exactly if it writes, between white space, a number of 64 bits, and as that
number; every other text is reported as unparseable. -/
theorem integer_and_uuid_texts_are_exact :
    (∀ n : Int64, (Value.int n).IsReadBack) ∧ (∀ u : Uuid, (Value.uuid u).IsReadBack) ∧
      ∀ s : String,
        (∀ v, Registry.default.convert (.text s) .integer = .ok v ↔
          ∃ n : Int, WritesInteger (Text.trim s.toList) n ∧ -2 ^ 63 ≤ n ∧ n < 2 ^ 63 ∧
            v = .int (Int64.ofInt n)) ∧
        ((¬ ∃ n : Int, WritesInteger (Text.trim s.toList) n ∧ -2 ^ 63 ≤ n ∧ n < 2 ^ 63) ↔
          ∃ fault, Registry.default.convert (.text s) .integer =
            .error (.unparseable s .text .integer (.integer fault))) := by
  refine ⟨Value.isReadBack_int, Value.isReadBack_uuid, fun s => ⟨fun v => ?_, ?_⟩⟩
  · rw [convert_integer_eq_ok_iff, Conversion.readInteger_eq_ok_iff]
  · constructor
    · intro hnone
      have hrefused : ∀ v, Conversion.readInteger (Text.trim s.toList) .integer ≠ .ok v := by
        intro v hv
        obtain ⟨n, hn, hlow, hhigh, _⟩ := Conversion.readInteger_eq_ok_iff.1 hv
        exact hnone ⟨n, hn, hlow, hhigh⟩
      obtain ⟨fault, hfault⟩ := Conversion.exists_fault_of_readInteger hrefused
      refine ⟨fault, ?_⟩
      rw [convert_integer, Conversion.reading, hfault]
      rfl
    · rintro ⟨fault, hfault⟩ ⟨n, hn, hlow, hhigh⟩
      have hread : Registry.default.convert (.text s) .integer = .ok (.int (Int64.ofInt n)) :=
        convert_integer_eq_ok_iff.2
          (Conversion.readInteger_eq_ok_iff.2 ⟨n, hn, hlow, hhigh, rfl⟩)
      rw [hread] at hfault
      cases hfault

/-- The lowest integer, with zeros in front, has no counterpart behind a plus. -/
example :
    parseInt64 "-0009223372036854775808".toList = .ok Int64.minValue ∧
      parseInt64 "+9223372036854775808".toList = .error .tooLarge := by
  decide +kernel

end Registry

end DuckTyping
