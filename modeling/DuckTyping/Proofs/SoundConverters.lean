import DuckTyping.Conversion.Builtin

set_option autoImplicit false

/-!
# Converters keep to the type that is asked for

A sound converter answers with a value of the very type that is asked for, or with the report that
the value at hand does not read as that type. The default converters are sound, and a registry of
sound converters never leaves the type: whatever it converts fits where the type is declared. How a
conversion ends is thereby settled: the value is kept, or refused for want of a converter, or it
becomes a value of the type or is reported not to read as one.
-/

namespace DuckTyping

theorem ValueType.eq_of_kind_eq {s t : ValueType} (h : t.kind = s.kind)
    (henum : s.kind ≠ .enumeration) (hobject : s.kind ≠ .object) (hshape : s.kind ≠ .shape) :
    t = s := by
  cases s <;> cases t <;> simp_all [ValueType.kind]

namespace Conversion

/-- How a conversion of a value to a type may end. -/
def EndsSoundly (v : Value) (target : ValueType) : Except ConversionError Value → Prop
  | .ok w => w.valueType = target
  | .error e => ∃ reason, e = .ofValue v target reason

/-- The conversion ends soundly for all types of the kind. -/
def Yields (conversion : Conversion) (kind : TypeKind) : Prop :=
  ∀ v target, target.kind = kind → EndsSoundly v target (conversion v target)

/-- Texts are read as values of the type that is asked for, if it is of the kind. -/
def ReadsAs (read : List Char → ValueType → Except Unreadable Value) (kind : TypeKind) : Prop :=
  ∀ cs target w, target.kind = kind → read cs target = .ok w → w.valueType = target

end Conversion

/-- A converter that ends soundly in both directions. -/
structure Converter.IsSound (c : Converter) : Prop where
  parse : Conversion.Yields c.parse c.target
  format : Conversion.Yields c.format c.source

/-- All converters of a registry are sound. -/
def Registry.IsSound (r : Registry) : Prop := ∀ c ∈ r.converters, c.IsSound

/-! ## The default converters -/

namespace Conversion

variable {read : List Char → ValueType → Except Unreadable Value} {kind : TypeKind}

theorem ReadsAs.yields (h : ReadsAs read kind) : Yields (reading read) kind := by
  intro v target htarget
  cases v with
  | text s =>
    simp only [reading]
    cases hread : read (Text.trim s.toList) target with
    | ok w => exact h _ target w htarget hread
    | error reason => exact ⟨reason, rfl⟩
  | _ => exact ⟨.notText, rfl⟩

theorem formatText_yields : Yields formatText .text := by
  intro v target htarget
  obtain rfl : target = .text := ValueType.eq_of_kind_eq htarget (by decide) (by decide) (by decide)
  simp only [formatText]
  cases textOf? v with
  | some s => exact rfl
  | none => exact ⟨.noTextForm, rfl⟩

theorem textConverter_isSound (h : ReadsAs read kind) : (textConverter kind read).IsSound :=
  ⟨h.yields, formatText_yields⟩

/-- Reading with no regard to the type is sound where the values read are of the one type that the
kind allows. -/
theorem readsAs_of_valueType {t : ValueType} (henum : t.kind ≠ .enumeration)
    (hobject : t.kind ≠ .object) (hshape : t.kind ≠ .shape)
    (h : ∀ cs target w, read cs target = .ok w → w.valueType = t) : ReadsAs read t.kind := by
  intro cs target w htarget hread
  rw [h cs target w hread, ValueType.eq_of_kind_eq htarget henum hobject hshape]

theorem readInteger_readsAs : ReadsAs readInteger .integer := by
  refine readsAs_of_valueType (t := .integer) (by decide) (by decide) (by decide) ?_
  intro cs target w hread
  unfold readInteger at hread
  split at hread <;> cases hread
  rfl

theorem readFloat_readsAs : ReadsAs readFloat .float := by
  refine readsAs_of_valueType (t := .float) (by decide) (by decide) (by decide) ?_
  intro cs target w hread
  unfold readFloat at hread
  split at hread <;> cases hread
  rfl

theorem readBoolean_readsAs : ReadsAs readBoolean .boolean := by
  refine readsAs_of_valueType (t := .boolean) (by decide) (by decide) (by decide) ?_
  intro cs target w hread
  simp only [readBoolean] at hread
  split at hread
  · cases hread
    rfl
  · split at hread <;> cases hread
    rfl

theorem readDateTime_readsAs : ReadsAs readDateTime .dateTime := by
  refine readsAs_of_valueType (t := .dateTime) (by decide) (by decide) (by decide) ?_
  intro cs target w hread
  unfold readDateTime at hread
  split at hread <;> cases hread
  rfl

theorem readUuid_readsAs : ReadsAs readUuid .uuid := by
  refine readsAs_of_valueType (t := .uuid) (by decide) (by decide) (by decide) ?_
  intro cs target w hread
  unfold readUuid at hread
  split at hread <;> cases hread
  rfl

theorem readEnum_readsAs : ReadsAs readEnum .enumeration := by
  intro cs target w _ hread
  unfold readEnum at hread
  split at hread
  · rename_i type
    simp only at hread
    split at hread
    · rename_i v hv
      cases hread
      obtain ⟨variant, _, hvariant⟩ := Option.bind_eq_some_iff.1 hv
      unfold EnumValue.ofVariant? at hvariant
      split at hvariant <;> cases hvariant
      rfl
    · cases hread
  · cases hread

theorem widenInteger_yields : Yields widenInteger .float := by
  intro v target htarget
  obtain rfl : target = .float :=
    ValueType.eq_of_kind_eq htarget (by decide) (by decide) (by decide)
  cases v with
  | int n => exact rfl
  | _ => exact ⟨.notInteger, rfl⟩

theorem narrowFloat_yields : Yields narrowFloat .integer := by
  intro v target htarget
  obtain rfl : target = .integer :=
    ValueType.eq_of_kind_eq htarget (by decide) (by decide) (by decide)
  cases v with
  | float x =>
    simp only [narrowFloat]
    cases Number.integral? x with
    | none => exact ⟨.notIntegral, rfl⟩
    | some n =>
      simp only
      split
      · exact rfl
      · exact ⟨.notIntegral, rfl⟩
  | _ => exact ⟨.notFloat, rfl⟩

theorem builtins_areSound : ∀ c ∈ builtins, c.IsSound := by
  intro c hc
  simp only [builtins, List.mem_cons, List.not_mem_nil, or_false] at hc
  rcases hc with rfl | rfl | rfl | rfl | rfl | rfl | rfl
  · exact textConverter_isSound readInteger_readsAs
  · exact textConverter_isSound readFloat_readsAs
  · exact textConverter_isSound readBoolean_readsAs
  · exact textConverter_isSound readDateTime_readsAs
  · exact textConverter_isSound readEnum_readsAs
  · exact textConverter_isSound readUuid_readsAs
  · exact ⟨widenInteger_yields, narrowFloat_yields⟩

end Conversion

/-! ## Registries -/

namespace Registry

variable {r : Registry}

theorem isSound_empty : empty.IsSound := fun _ hc => absurd hc List.not_mem_nil

/-- Registering a sound converter keeps a registry sound. -/
theorem IsSound.register (hr : r.IsSound) {c : Converter} (hc : c.IsSound) :
    (r.register c).IsSound := by
  intro d hd
  rcases List.mem_cons.1 hd with rfl | hd
  · exact hc
  · exact hr d (List.mem_filter.1 hd).1

theorem IsSound.registerAll (hr : r.IsSound) {cs : List Converter} (hcs : ∀ c ∈ cs, c.IsSound) :
    (cs.foldl Registry.register r).IsSound := by
  induction cs generalizing r with
  | nil => exact hr
  | cons c rest ih =>
    rw [List.forall_mem_cons] at hcs
    exact ih (hr.register hcs.1) hcs.2

theorem isSound_default : Registry.default.IsSound :=
  isSound_empty.registerAll Conversion.builtins_areSound

/-- Whichever way round a conversion is found, it ends soundly. -/
theorem IsSound.yields_of_find? (hr : r.IsSound) {source target : TypeKind}
    {conversion : Conversion} (h : r.find? source target = some conversion) :
    Conversion.Yields conversion target := by
  unfold find? at h
  split at h
  · rename_i c hc
    cases h
    have hkinds := List.find?_some hc
    simp only [Bool.and_eq_true, beq_iff_eq] at hkinds
    rw [← hkinds.2]
    exact (hr c (List.mem_of_find?_eq_some hc)).parse
  · obtain ⟨c, hc, rfl⟩ := Option.map_eq_some_iff.1 h
    have hkinds := List.find?_some hc
    simp only [Bool.and_eq_true, beq_iff_eq] at hkinds
    rw [← hkinds.1]
    exact (hr c (List.mem_of_find?_eq_some hc)).format

/-- A value that neither is null nor fits converts soundly where a converter is registered. -/
theorem IsSound.endsSoundly_convert (hr : r.IsSound) {v : Value} {t : ValueType}
    (hnull : v.isNull = false) (hfits : v.conformsTo t = false)
    (hcan : r.canConvert v.valueType t = true) : Conversion.EndsSoundly v t (r.convert v t) := by
  obtain ⟨conversion, hconversion⟩ := Option.isSome_iff_exists.1 hcan
  have hconvert : r.convert v t = conversion v t := by
    simp [convert, hnull, hfits, hconversion]
  rw [hconvert]
  exact hr.yields_of_find? hconversion v t rfl

/-! ## How conversions end -/

theorem convert_of_keeps {v : Value} {t : ValueType}
    (h : v.isNull = true ∨ v.conformsTo t = true) : r.convert v t = .ok v :=
  if_pos (Bool.or_eq_true_iff.2 h)

theorem convert_of_canConvert_eq_false {v : Value} {t : ValueType}
    (hkeeps : ¬ (v.isNull = true ∨ v.conformsTo t = true))
    (hcan : r.canConvert v.valueType t = false) :
    r.convert v t = .error (.noConverter v.valueType t) := by
  have hnone : r.find? v.valueType.kind t.kind = none :=
    Option.not_isSome_iff_eq_none.1 (Bool.eq_false_iff.1 hcan)
  rw [← Bool.or_eq_true_iff] at hkeeps
  rw [convert, if_neg hkeeps, hnone]

/-- Where a converter is registered, the value becomes one of the type that is asked for, or is
reported not to read as that type. -/
theorem IsSound.convert_of_canConvert (hr : r.IsSound) {v : Value} {t : ValueType}
    (hkeeps : ¬ (v.isNull = true ∨ v.conformsTo t = true))
    (hcan : r.canConvert v.valueType t = true) :
    (∃ w, r.convert v t = .ok w ∧ w.valueType = t) ∨
      ∃ literal reason, r.convert v t = .error (.unparseable literal v.valueType t reason) := by
  rw [not_or, Bool.not_eq_true, Bool.not_eq_true] at hkeeps
  have hends := hr.endsSoundly_convert hkeeps.1 hkeeps.2 hcan
  cases hconvert : r.convert v t with
  | ok w =>
    rw [hconvert] at hends
    exact .inl ⟨w, rfl, hends⟩
  | error e =>
    rw [hconvert] at hends
    obtain ⟨reason, rfl⟩ := hends
    exact .inr ⟨_, reason, rfl⟩

theorem IsSound.conformsTo_of_convert (hr : r.IsSound) {v w : Value} {t : ValueType}
    (h : r.convert v t = .ok w) : w.conformsTo t = true := by
  by_cases hkeeps : v.isNull = true ∨ v.conformsTo t = true
  · rw [convert_of_keeps hkeeps] at h
    cases h
    rcases hkeeps with hnull | hfits
    · cases v <;> cases hnull
      exact Value.null_conformsTo t
    · exact hfits
  · cases hcan : r.canConvert v.valueType t with
    | true =>
      rcases hr.convert_of_canConvert hkeeps hcan with ⟨w', hw', htype⟩ | ⟨_, _, hreport⟩
      · rw [hw'] at h
        cases h
        rw [← htype, Value.conformsTo_valueType]
      · rw [hreport] at h
        cases h
    | false =>
      rw [convert_of_canConvert_eq_false hkeeps hcan] at h
      cases h

/-- Converting the result of a conversion to the same type once more changes nothing. -/
theorem IsSound.convert_twice (hr : r.IsSound) {v w : Value} {t : ValueType}
    (h : r.convert v t = .ok w) : r.convert w t = .ok w :=
  convert_of_conformsTo r (hr.conformsTo_of_convert h)

/-- **How conversions end.** With the default converters a value that is null or fits is kept; any
other is refused for want of a converter exactly where none is registered, and where one is, it
becomes a value of the very type that is asked for or is reported not to read as that type. What
comes out of a conversion stays as it is under the same conversion. -/
theorem default_convert_ends (v : Value) (t : ValueType) :
    let r := Registry.default
    ((v.isNull = true ∨ v.conformsTo t = true) → r.convert v t = .ok v) ∧
      (¬ (v.isNull = true ∨ v.conformsTo t = true) →
        (r.convert v t = .error (.noConverter v.valueType t) ↔
          r.canConvert v.valueType t = false) ∧
        (r.canConvert v.valueType t = true →
          (∃ w, r.convert v t = .ok w ∧ w.valueType = t) ∨
            ∃ literal reason,
              r.convert v t = .error (.unparseable literal v.valueType t reason))) ∧
      ∀ w, r.convert v t = .ok w → r.convert w t = .ok w := by
  intro r
  have hsound : r.IsSound := isSound_default
  refine ⟨convert_of_keeps, fun hkeeps => ⟨⟨fun hrefused => ?_, ?_⟩, ?_⟩, fun w hw => ?_⟩
  · -- no default converter reports a missing converter, so none was found
    rw [← Bool.not_eq_true]
    intro hcan
    rcases hsound.convert_of_canConvert hkeeps hcan with ⟨w, hw, _⟩ | ⟨literal, reason, hreport⟩
    · rw [hrefused] at hw
      cases hw
    · rw [hrefused] at hreport
      cases hreport
  · exact convert_of_canConvert_eq_false hkeeps
  · exact hsound.convert_of_canConvert hkeeps
  · exact hsound.convert_twice hw

end Registry

end DuckTyping
