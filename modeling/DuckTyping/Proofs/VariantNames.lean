import DuckTyping.Proofs.WrittenScalars

set_option autoImplicit false

/-!
# Variants and their names

A value of an enumeration is written as the name of its variant, and a name is looked for exactly
before the case of its letters is ignored, so variants that differ in case alone are told apart. But
the white space around a text is removed before the name is looked for: a variant comes back from
its name exactly if the name has no white space at its ends. From any other name comes another
variant or none, as what is left of the name is too short for it.
-/

namespace DuckTyping

namespace EnumType

theorem variants_of_declare {name : String} {variants : List String} {type : EnumType}
    (h : declare name variants = .ok type) : type.variants = variants := by
  unfold declare at h
  split at h
  · cases h
  · split at h <;> cases h
    rfl

/-- A variant is found under its own name, whatever other names differ from it in case alone. -/
theorem variantIgnoreCase?_of_mem {type : EnumType} {variant : String}
    (h : variant ∈ type.variants) : type.variantIgnoreCase? variant = some variant := by
  rw [variantIgnoreCase?, variant?_eq_some_iff.2 ⟨rfl, h⟩, Option.some_or]

/-- The name that is looked for is as long as that of the variant that is found. -/
theorem length_of_variantIgnoreCase? {type : EnumType} {name variant : String}
    (h : type.variantIgnoreCase? name = some variant) :
    variant.toList.length = name.toList.length := by
  rcases Option.or_eq_some_iff.1 h with hexact | ⟨-, hcase⟩
  · rw [(variant?_eq_some_iff.1 hexact).1]
  · have hlower := List.find?_some hcase
    rw [Text.eqIgnoreAsciiCase, beq_iff_eq] at hlower
    have hlength := congrArg List.length hlower
    rwa [List.length_map, List.length_map] at hlength

end EnumType

theorem EnumValue.variant_of_ofVariant? {type : EnumType} {variant : String} {v : EnumValue}
    (h : ofVariant? type variant = some v) : v.variant = variant := by
  unfold ofVariant? at h
  split at h
  · rw [← Option.some.inj h]
  · cases h

namespace Conversion

/-- A name without white space at its ends reads as its variant. -/
theorem readEnum_of_trim {v : EnumValue} (h : Text.trim v.variant.toList = v.variant.toList) :
    readEnum (Text.trim v.variant.toList) (.enumeration v.type) = .ok (.enumeration v) := by
  simp only [readEnum, h, String.ofList_toList, EnumType.variantIgnoreCase?_of_mem v.variant_mem,
    Option.bind_some, EnumValue.ofVariant?_variant]

/-- Only a name without white space at its ends reads as its variant. -/
theorem trim_of_readEnum {v : EnumValue}
    (h : readEnum (Text.trim v.variant.toList) (.enumeration v.type) = .ok (.enumeration v)) :
    Text.trim v.variant.toList = v.variant.toList := by
  simp only [readEnum] at h
  split at h
  · rename_i w hw
    cases h
    obtain ⟨found, hfound, hvariant⟩ := Option.bind_eq_some_iff.1 hw
    have hlength := EnumType.length_of_variantIgnoreCase? hfound
    rw [← EnumValue.variant_of_ofVariant? hvariant, String.toList_ofList] at hlength
    exact Text.trim_eq_self_of_length_eq hlength.symm
  · cases h

end Conversion

namespace EnumValue

theorem convert_text (v : EnumValue) :
    Registry.default.convert (.enumeration v) .text = .ok (.text v.variant) := by
  have hfind : Registry.default.find? .enumeration .text = some Conversion.formatText := rfl
  exact Registry.convert_of_find? (v := .enumeration v) (t := .text) rfl (by decide) (by decide)
    (show TypeKind.enumeration ≠ .text by decide) hfind

theorem convert_enumeration (name : String) (type : EnumType) :
    Registry.default.convert (.text name) (.enumeration type) =
      Conversion.reading Conversion.readEnum (.text name) (.enumeration type) := by
  have hfind : Registry.default.find? .text .enumeration =
      some (Conversion.reading Conversion.readEnum) := rfl
  exact Registry.convert_of_find? (v := .text name) (t := .enumeration type) rfl
    (show TypeKind.enumeration ≠ .any by decide) (show TypeKind.enumeration ≠ .shape by decide)
    (show TypeKind.text ≠ .enumeration by decide) hfind

/-- **A variant is read back exactly if no white space stands at the ends of its name.** Every
variant of every enumeration that can be declared is written as its name, and the name is read as
the same variant of the same enumeration exactly if removing the white space around it changes
nothing. -/
theorem variant_is_read_back_iff {name : String} {variants : List String} {type : EnumType}
    (htype : EnumType.declare name variants = .ok type) {variant : String}
    (hvariant : variant ∈ variants) :
    ∃ v, ofVariant? type variant = some v ∧
      Registry.default.convert (.enumeration v) .text = .ok (.text variant) ∧
      (Registry.default.convert (.text variant) (.enumeration type) = .ok (.enumeration v) ↔
        Text.trim variant.toList = variant.toList) := by
  rw [← EnumType.variants_of_declare htype] at hvariant
  let v : EnumValue := ⟨type, variant, hvariant⟩
  refine ⟨v, ofVariant?_variant v, convert_text v, ?_⟩
  rw [convert_enumeration, Conversion.reading]
  constructor
  · intro h
    refine Conversion.trim_of_readEnum (v := v) ?_
    split at h
    · rename_i w hw
      cases h
      exact hw
    · cases h
  · intro h
    rw [Conversion.readEnum_of_trim (v := v) h]

/-- The second of two variants that differ in case alone. -/
theorem variant_is_read_back_iff_case :
    ∃ type, EnumType.declare "Mode" ["on", "ON"] = .ok type ∧ "ON" ∈ ["on", "ON"] ∧
      Text.trim "ON".toList = "ON".toList ∧
      ∃ v, ofVariant? type "ON" = some v ∧
        Registry.default.convert (.enumeration v) .text = .ok (.text "ON") ∧
        (Registry.default.convert (.text "ON") (.enumeration type) = .ok (.enumeration v) ↔
          Text.trim "ON".toList = "ON".toList) := by
  let type : EnumType := ⟨"Mode", ["on", "ON"], by decide, by decide⟩
  have htype : EnumType.declare "Mode" ["on", "ON"] = .ok type := by decide
  have hmem : "ON" ∈ ["on", "ON"] := by decide
  exact ⟨type, htype, hmem, by decide, variant_is_read_back_iff htype hmem⟩

/-- The name of the first of two variants is read as the second, whose name is the same but for a
space in front. -/
theorem padded_variant_becomes_another :
    ∃ type padded plain, EnumType.declare "Color" [" Red", "Red"] = .ok type ∧
      ofVariant? type " Red" = some padded ∧ ofVariant? type "Red" = some plain ∧
      Registry.default.convert (.enumeration padded) .text = .ok (.text " Red") ∧
      Registry.default.convert (.text " Red") (.enumeration type) = .ok (.enumeration plain) ∧
      plain ≠ padded := by
  let type : EnumType := ⟨"Color", [" Red", "Red"], by decide, by decide⟩
  let padded : EnumValue := ⟨type, " Red", by decide⟩
  let plain : EnumValue := ⟨type, "Red", by decide⟩
  refine ⟨type, padded, plain, by decide, by decide, by decide, convert_text padded, ?_, by decide⟩
  rw [convert_enumeration]
  rfl

end EnumValue

end DuckTyping
