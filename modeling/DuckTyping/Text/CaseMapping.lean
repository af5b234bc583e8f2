import DuckTyping.Text.CaseIgnorable
import DuckTyping.Text.Cased
import DuckTyping.Text.LowerCase
import DuckTyping.Text.UpperCase

set_option autoImplicit false

/-!
# Case of whole texts

Lower and upper case of a text by the full mappings of Unicode, in which one character may become
several, and the comparison that ignores the case of ASCII letters alone.

A capital sigma is the only letter whose lower-case form depends on where it stands: at the end of a
word it becomes `ς`. A word ends there when a cased letter stands before it and none after it, marks
and apostrophes not counted.
-/

namespace DuckTyping.Text

/-- The first character that case rules do not look past has case. -/
def startsCased (cs : List Char) : Bool :=
  match cs.dropWhile caseIgnorable.contains with
  | c :: _ => cased.contains c
  | [] => false

/-- The lower-case form of a capital sigma between `before` (nearest first) and `after`. -/
def lowerSigma (before after : List Char) : Char :=
  if startsCased before && !startsCased after then 'ς' else 'σ'

/-- Lower case of the characters that follow `before` (nearest first). -/
def lowerAfter (before : List Char) : List Char → List Char
  | [] => []
  | c :: after =>
    (if c = 'Σ' then [lowerSigma before after] else lowerChar c) ++ lowerAfter (c :: before) after

/-- A text in lower case. -/
def lower (s : String) : String := String.ofList (lowerAfter [] s.toList)

/-- A text in upper case. -/
def upper (s : String) : String := String.ofList (s.toList.flatMap upperChar)

/-- Two texts are equal when the case of ASCII letters is ignored. -/
def eqIgnoreAsciiCase (a b : String) : Bool :=
  a.toList.map Char.toLower == b.toList.map Char.toLower

theorem lowerAfter_of_ascii (before : List Char) {cs : List Char}
    (h : ∀ c ∈ cs, c.toNat < 0x80) : lowerAfter before cs = cs.map Char.toLower := by
  induction cs generalizing before with
  | nil => rfl
  | cons c rest ih =>
    have hc : c.toNat < 0x80 := h c (by simp)
    have hs : c ≠ 'Σ' := by
      rintro rfl
      exact absurd hc (by decide)
    simp [lowerAfter, hs, lowerChar_of_ascii hc, ih _ fun d hd => h d (by simp [hd])]

/-- On ASCII texts lower case works letter by letter. -/
theorem lower_of_ascii {s : String} (h : ∀ c ∈ s.toList, c.toNat < 0x80) :
    lower s = String.ofList (s.toList.map Char.toLower) := by
  rw [lower, lowerAfter_of_ascii _ h]

theorem flatMap_upperChar_of_ascii {cs : List Char} (h : ∀ c ∈ cs, c.toNat < 0x80) :
    cs.flatMap upperChar = cs.map Char.toUpper := by
  induction cs with
  | nil => rfl
  | cons c rest ih =>
    simp [upperChar_of_ascii (h c (by simp)), ih fun d hd => h d (by simp [hd])]

/-- On ASCII texts upper case works letter by letter. -/
theorem upper_of_ascii {s : String} (h : ∀ c ∈ s.toList, c.toNat < 0x80) :
    upper s = String.ofList (s.toList.map Char.toUpper) := by
  rw [upper, flatMap_upperChar_of_ascii h]

@[simp] theorem eqIgnoreAsciiCase_refl (a : String) : eqIgnoreAsciiCase a a = true := by
  simp [eqIgnoreAsciiCase]

end DuckTyping.Text
