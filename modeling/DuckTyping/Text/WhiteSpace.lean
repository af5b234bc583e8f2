set_option autoImplicit false

/-!
# White space

The characters with the property `White_Space`, and their removal at the ends of a text.
-/

namespace DuckTyping.Text

/-- Tab to carriage return, space, next line, no-break space and the wide and typographic spaces. -/
def isWhiteSpace (c : Char) : Bool :=
  let n := c.toNat
  (0x09 ≤ n && n ≤ 0x0D) || n == 0x20 || n == 0x85 || n == 0xA0 || n == 0x1680
    || (0x2000 ≤ n && n ≤ 0x200A) || n == 0x2028 || n == 0x2029 || n == 0x202F || n == 0x205F
    || n == 0x3000

/-- The characters from the first one that is no white space on. -/
def trimStart (cs : List Char) : List Char := cs.dropWhile isWhiteSpace

/-- The characters without the white space at both ends. -/
def trim (cs : List Char) : List Char := (trimStart (trimStart cs).reverse).reverse

theorem trimStart_append_of_white {ws : List Char} (h : ∀ c ∈ ws, isWhiteSpace c = true)
    (cs : List Char) : trimStart (ws ++ cs) = trimStart cs := by
  induction ws with
  | nil => rfl
  | cons c rest ih =>
    simp only [trimStart, List.cons_append] at ih ⊢
    rw [List.dropWhile_cons_of_pos (h c (by simp))]
    exact ih fun d hd => h d (by simp [hd])

end DuckTyping.Text
