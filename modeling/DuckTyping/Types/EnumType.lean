import DuckTyping.Text.CaseMapping
import DuckTyping.Types.TypeError

set_option autoImplicit false

/-!
# Enumerations

A named enumeration knows its variants by name, in the order of their declaration. It has at least
one variant and no name twice.
-/

namespace DuckTyping

/-- A named list of distinct variants. -/
structure EnumType where
  name : String
  variants : List String
  variants_ne_nil : variants ≠ []
  variants_nodup : variants.Nodup
  deriving DecidableEq, Repr

namespace EnumType

/-- Declare an enumeration: the list of variants must not be empty and holds no name twice. -/
def declare (name : String) (variants : List String) : Except TypeError EnumType :=
  if hne : variants = [] then .error (.emptyEnum name)
  else match hrep : firstRepeated variants with
    | some variant => .error (.duplicateVariant name variant)
    | none => .ok ⟨name, variants, hne, firstRepeated_eq_none_iff.1 hrep⟩

/-- The variant of exactly this name. -/
def variant? (e : EnumType) (name : String) : Option String :=
  e.variants.find? (· == name)

/-- The variant of exactly this name, else the first that differs in the case of ASCII letters. -/
def variantIgnoreCase? (e : EnumType) (name : String) : Option String :=
  (e.variant? name).or (e.variants.find? (Text.eqIgnoreAsciiCase · name))

theorem variant?_eq_some_iff {e : EnumType} {name v : String} :
    e.variant? name = some v ↔ v = name ∧ name ∈ e.variants := by
  constructor
  · intro h
    have hv := List.find?_some h
    have hm := List.mem_of_find?_eq_some h
    simp only [beq_iff_eq] at hv
    exact ⟨hv, hv ▸ hm⟩
  · rintro ⟨rfl, hm⟩
    cases h : e.variants.find? (· == v) with
    | none => simpa using List.find?_eq_none.1 h v hm
    | some w =>
      have hw := List.find?_some h
      simp only [beq_iff_eq] at hw
      rw [variant?, h, hw]

end EnumType

end DuckTyping
