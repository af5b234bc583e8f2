import DuckTyping.Types.EnumType

set_option autoImplicit false

/-!
# Values of an enumeration
-/

namespace DuckTyping

/-- One of the variants of an enumeration. -/
structure EnumValue where
  type : EnumType
  variant : String
  variant_mem : variant ∈ type.variants
  deriving DecidableEq, Repr

namespace EnumValue

/-- The variant of exactly this name, if there is one. -/
def ofVariant? (type : EnumType) (variant : String) : Option EnumValue :=
  if h : variant ∈ type.variants then some ⟨type, variant, h⟩ else none

@[simp] theorem ofVariant?_variant (v : EnumValue) : ofVariant? v.type v.variant = some v := by
  simp [ofVariant?, v.variant_mem]

end EnumValue

end DuckTyping
