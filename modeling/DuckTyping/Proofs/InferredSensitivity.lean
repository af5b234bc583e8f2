import DuckTyping.Store.Sensitivity
import Mathlib

set_option autoImplicit false

/-!
# Comparisons found out by asking

A mapping that declares no comparison is asked for each of its keys in lower and in upper case,
unless it stores that too. One that compares literally answers to stored keys only, so nothing that
it is asked betrays it. One that ignores the case of ASCII letters, be it by comparing in lower case
or by ASCII case alone, is betrayed by a single ASCII key with a letter: as its lower and its upper
case differ, one of them is another text, and no other key is stored that would be the same.
-/

namespace DuckTyping

/-! ## ASCII texts in other case -/

namespace Text

variable {s : String}

/-- All characters of the text are ASCII. -/
def IsAscii (s : String) : Prop := ∀ c ∈ s.toList, c.toNat < 0x80

theorem toNat_toLower_lt {c : Char} (h : c.toNat < 0x80) : c.toLower.toNat < 0x80 := by
  by_cases hupper : c.isUpper
  · have hle : c.toNat ≤ 90 := by
      simp only [Char.isUpper, decide_eq_true_eq] at hupper
      exact UInt32.le_iff_toNat_le.1 hupper.2
    have hvalid : (c.toNat + 32).isValidChar := by omega
    rw [Char.toLower_eq_of_isUpper hupper, Char.toNat_ofNat, if_pos hvalid]
    omega
  · rwa [Char.toLower_eq_of_not_isUpper hupper]

theorem toNat_toUpper_lt {c : Char} (h : c.toNat < 0x80) : c.toUpper.toNat < 0x80 := by
  by_cases hlower : c.isLower
  · have hvalid : (c.toNat - 32).isValidChar := by omega
    rw [Char.toUpper_eq_of_isLower hlower, Char.toNat_ofNat, if_pos hvalid]
    omega
  · rwa [Char.toUpper_eq_of_not_isLower hlower]

theorem IsAscii.lower (h : IsAscii s) : IsAscii (lower s) := by
  rw [IsAscii, lower_of_ascii h, String.toList_ofList]
  exact List.forall_mem_map.2 fun c hc => toNat_toLower_lt (h c hc)

theorem IsAscii.upper (h : IsAscii s) : IsAscii (upper s) := by
  rw [IsAscii, upper_of_ascii h, String.toList_ofList]
  exact List.forall_mem_map.2 fun c hc => toNat_toUpper_lt (h c hc)

theorem map_toLower_lower (h : IsAscii s) :
    (lower s).toList.map Char.toLower = s.toList.map Char.toLower := by
  rw [lower_of_ascii h, String.toList_ofList, List.map_map]
  exact List.map_congr_left fun c _ => Char.toLower_toLower_eq_toLower c

theorem map_toLower_upper (h : IsAscii s) :
    (upper s).toList.map Char.toLower = s.toList.map Char.toLower := by
  rw [upper_of_ascii h, String.toList_ofList, List.map_map]
  exact List.map_congr_left fun c _ => Char.toLower_toUpper_eq_toLower c

theorem lower_ne_upper (h : IsAscii s) (hletter : ∃ c ∈ s.toList, c.isAlpha = true) :
    lower s ≠ upper s := by
  obtain ⟨c, hc, halpha⟩ := hletter
  intro heq
  rw [lower_of_ascii h, upper_of_ascii h, String.ofList_inj] at heq
  have hcase : c.toLower = c.toUpper := List.map_inj_left.1 heq c hc
  have hlower : c.toLower.isLower = true := by rw [Char.isLower_toLower_eq_isAlpha, halpha]
  rw [hcase, Char.isLower_toUpper_eq_false] at hlower
  cases hlower

end Text

/-! ## Rules for keys -/

/-- A rule that takes an ASCII key in other case for the same key. -/
structure IgnoresAsciiCase (rule : String → String → Bool) : Prop where
  comm : ∀ a b, rule a b = rule b a
  lower : ∀ {key}, Text.IsAscii key → rule key (Text.lower key) = true
  upper : ∀ {key}, Text.IsAscii key → rule key (Text.upper key) = true

/-- On ASCII keys comparing in lower case is comparing by ASCII case. -/
theorem ignoresAsciiCase_lower : IgnoresAsciiCase fun a b => Text.lower a == Text.lower b where
  comm _ _ := BEq.comm
  lower h := by
    rw [beq_iff_eq, Text.lower_of_ascii h.lower, Text.map_toLower_lower h, Text.lower_of_ascii h]
  upper h := by
    rw [beq_iff_eq, Text.lower_of_ascii h.upper, Text.map_toLower_upper h, Text.lower_of_ascii h]

theorem ignoresAsciiCase_eqIgnoreAsciiCase : IgnoresAsciiCase Text.eqIgnoreAsciiCase where
  comm _ _ := BEq.comm
  lower h := by rw [Text.eqIgnoreAsciiCase, Text.map_toLower_lower h, beq_self_eq_true]
  upper h := by rw [Text.eqIgnoreAsciiCase, Text.map_toLower_upper h, beq_self_eq_true]

namespace ForeignMapping

variable {m : ForeignMapping} {rule : String → String → Bool} {key : String}

/-- The stored keys answer by the rule. -/
def ComparesBy (m : ForeignMapping) (rule : String → String → Bool) : Prop :=
  ∀ stored ∈ m.keys, ∀ key, m.sameKey stored key = rule stored key

/-- No two of the stored keys are the same key. -/
def HasDistinctKeys (m : ForeignMapping) : Prop :=
  m.keys.Pairwise fun a b => m.sameKey a b = false

/-- A stored key has a variant that the mapping does not store and answers to all the same. -/
def IsBetrayed (m : ForeignMapping) : Prop :=
  ∃ key ∈ m.keys, ∃ variant, (variant = Text.lower key ∨ variant = Text.upper key) ∧
    variant ∉ m.keys ∧ ∃ stored ∈ m.keys, m.sameKey stored variant = true

theorem contains_iff :
    (Mapping.foreign m).contains key = true ↔ ∃ stored ∈ m.keys, m.sameKey stored key = true := by
  rw [Mapping.contains, get?, Option.isSome_map, List.find?_isSome, keys]
  simp only [List.mem_map, exists_exists_and_eq_and]

theorem not_isBetrayed_of_beq (h : m.ComparesBy (· == ·)) : ¬ m.IsBetrayed := by
  rintro ⟨_, _, variant, _, hfresh, stored, hstored, hanswers⟩
  rw [h stored hstored, beq_iff_eq] at hanswers
  exact hfresh (hanswers ▸ hstored)

/-- An ASCII key that is not its own variant betrays a mapping that ignores ASCII case: the key
answers to the variant, so the variant is not stored beside it. -/
theorem isBetrayed_of_variant_ne (hrule : IgnoresAsciiCase rule) (h : m.ComparesBy rule)
    (hdistinct : m.HasDistinctKeys) (hkey : key ∈ m.keys) (hascii : Text.IsAscii key)
    {variant : String} (hvariant : variant = Text.lower key ∨ variant = Text.upper key)
    (hne : key ≠ variant) : m.IsBetrayed := by
  have hsame : rule key variant = true := by
    rcases hvariant with rfl | rfl
    · exact hrule.lower hascii
    · exact hrule.upper hascii
  have hpairs : m.keys.Pairwise fun a b => rule a b = false :=
    hdistinct.imp_of_mem fun ha _ hab => (h _ ha _).symm.trans hab
  have hsymm : Std.Symm fun a b => rule a b = false := ⟨fun a b hab => (hrule.comm b a).trans hab⟩
  refine ⟨key, hkey, variant, hvariant, fun hstored => ?_, key, hkey, ?_⟩
  · have hdiffers : rule key variant = false := hpairs.forall hkey hstored hne
    rw [hsame] at hdiffers
    cases hdiffers
  · rw [h key hkey, hsame]

theorem isBetrayed_of_letter (hrule : IgnoresAsciiCase rule) (h : m.ComparesBy rule)
    (hdistinct : m.HasDistinctKeys) (hkey : key ∈ m.keys) (hascii : Text.IsAscii key)
    (hletter : ∃ c ∈ key.toList, c.isAlpha = true) : m.IsBetrayed := by
  by_cases hlower : key = Text.lower key
  · have hupper : key ≠ Text.upper key := fun hupper =>
      Text.lower_ne_upper hascii hletter (hlower.symm.trans hupper)
    exact isBetrayed_of_variant_ne hrule h hdistinct hkey hascii (.inr rfl) hupper
  · exact isBetrayed_of_variant_ne hrule h hdistinct hkey hascii (.inl rfl) hlower

end ForeignMapping

/-! ## Asking -/

namespace Store

variable {σ : Store} {address : Nat} {m : ForeignMapping}

/-- A variant of a stored key gives the mapping away if it is not stored and is answered. That it
differs from the key is then no condition of its own. -/
theorem betrays_iff (hm : σ.mapping address = .foreign m) {key : String} (hkey : key ∈ m.keys)
    (variant : String) :
    σ.betrays (.cell address) m.keys key variant = true ↔
      variant ∉ m.keys ∧ ∃ stored ∈ m.keys, m.sameKey stored variant = true := by
  have hne : variant ∉ m.keys → variant ≠ key := fun hfresh heq => hfresh (heq ▸ hkey)
  rw [betrays, contains, hm, Bool.and_eq_true, Bool.and_eq_true, ForeignMapping.contains_iff,
    bne_iff_ne, Bool.not_eq_true', ← Bool.not_eq_true, List.contains_iff_mem,
    and_iff_right_of_imp hne]

/-- A mapping that declares no comparison is taken to ignore case if it has no keys or is betrayed.
-/
theorem isCaseSensitive_eq_false_iff (hm : σ.mapping address = .foreign m)
    (hdeclared : m.declared = none) :
    σ.isCaseSensitive (.cell address) = false ↔ m.keys = [] ∨ m.IsBetrayed := by
  have hasked : σ.inferredCaseSensitive (.cell address) = false ↔ m.keys = [] ∨
      ∃ key ∈ m.keys, σ.betrays (.cell address) m.keys key (Text.lower key) = true ∨
        σ.betrays (.cell address) m.keys key (Text.upper key) = true := by
    rw [inferredCaseSensitive, keys, hm, Mapping.keys]
    simp only [Bool.and_eq_false_iff, Bool.not_eq_false', List.isEmpty_iff, List.any_eq_true,
      Bool.or_eq_true]
  rw [isCaseSensitive, comparison?, hm, Mapping.comparison?, hdeclared]
  refine hasked.trans (or_congr_right (exists_congr fun key => and_congr_right fun hkey => ?_))
  rw [betrays_iff hm hkey, betrays_iff hm hkey]
  simp only [or_and_right, exists_or, exists_eq_left]

/-- **What is found out of a mapping is how it compares.** A mapping that declares no comparison is
found to distinguish case if it has keys and compares them literally. It is found to ignore case if
it compares in lower case or by ASCII case, no two of its keys are the same, and one of them is
ASCII with a letter; and if it has no keys. -/
theorem isCaseSensitive_of_undeclared (hm : σ.mapping address = .foreign m)
    (hdeclared : m.declared = none) :
    let sensitive := σ.isCaseSensitive (.cell address)
    (m.keys ≠ [] → m.ComparesBy (· == ·) → sensitive = true) ∧
      (m.ComparesBy (fun a b => Text.lower a == Text.lower b) ∨
          m.ComparesBy Text.eqIgnoreAsciiCase →
        m.HasDistinctKeys →
        (∃ key ∈ m.keys, Text.IsAscii key ∧ ∃ c ∈ key.toList, c.isAlpha = true) →
        sensitive = false) ∧
      (m.keys = [] → sensitive = false) := by
  intro sensitive
  have hfalse := isCaseSensitive_eq_false_iff hm hdeclared
  refine ⟨fun hkeys hliteral => ?_, fun hrule hdistinct hword => ?_, fun hkeys => ?_⟩
  · rw [← Bool.not_eq_false, hfalse]
    rintro (hempty | hbetrayed)
    · exact hkeys hempty
    · exact ForeignMapping.not_isBetrayed_of_beq hliteral hbetrayed
  · obtain ⟨key, hkey, hascii, hletter⟩ := hword
    refine hfalse.2 (.inr ?_)
    rcases hrule with hlower | hasciiCase
    · exact ForeignMapping.isBetrayed_of_letter ignoresAsciiCase_lower hlower hdistinct hkey hascii
        hletter
    · exact ForeignMapping.isBetrayed_of_letter ignoresAsciiCase_eqIgnoreAsciiCase hasciiCase
        hdistinct hkey hascii hletter
  · exact hfalse.2 (.inl hkeys)

/-- A mapping of literal keys, two of which differ in case alone, mappings of each kind that ignores
case, and one without keys. -/
theorem isCaseSensitive_of_undeclared_four :
    let foreign := fun (rule : String → String → Bool) (keys : List String) =>
      ({ typeName := "Host", sameKey := rule, declared := none, readOnly := false, refusal := none
         entries := keys.map fun key => (key, .null) } : ForeignMapping)
    let literal := foreign (· == ·) ["id", "ID", "Straße"]
    let lower := foreign (fun a b => Text.lower a == Text.lower b) ["Straße", "Σίσυφος", "Foo"]
    let ascii := foreign Text.eqIgnoreAsciiCase ["É", "é", "BAR"]
    let empty := foreign (· == ·) []
    let σ : Store := ⟨#[.foreign literal, .foreign lower, .foreign ascii, .foreign empty], #[], 0⟩
    literal.keys ≠ [] ∧ literal.ComparesBy (· == ·) ∧ σ.isCaseSensitive (.cell 0) = true ∧
      lower.ComparesBy (fun a b => Text.lower a == Text.lower b) ∧ lower.HasDistinctKeys ∧
      σ.isCaseSensitive (.cell 1) = false ∧
      ascii.ComparesBy Text.eqIgnoreAsciiCase ∧ ascii.HasDistinctKeys ∧
      σ.isCaseSensitive (.cell 2) = false ∧
      empty.keys = [] ∧ σ.isCaseSensitive (.cell 3) = false := by
  intro foreign literal lower ascii empty σ
  obtain ⟨hsensitive, -, -⟩ :=
    isCaseSensitive_of_undeclared (show σ.mapping 0 = .foreign literal from rfl) rfl
  obtain ⟨-, hlower, -⟩ :=
    isCaseSensitive_of_undeclared (show σ.mapping 1 = .foreign lower from rfl) rfl
  obtain ⟨-, hascii, -⟩ :=
    isCaseSensitive_of_undeclared (show σ.mapping 2 = .foreign ascii from rfl) rfl
  obtain ⟨-, -, hempty⟩ :=
    isCaseSensitive_of_undeclared (show σ.mapping 3 = .foreign empty from rfl) rfl
  have hkeys : literal.keys ≠ [] := by decide
  have hfoo : ∃ key ∈ lower.keys, Text.IsAscii key ∧ ∃ c ∈ key.toList, c.isAlpha = true :=
    ⟨"Foo", by decide, by simp [Text.IsAscii], by simp⟩
  have hbar : ∃ key ∈ ascii.keys, Text.IsAscii key ∧ ∃ c ∈ key.toList, c.isAlpha = true :=
    ⟨"BAR", by decide, by simp [Text.IsAscii], by simp⟩
  have hdistinct : lower.HasDistinctKeys ∧ ascii.HasDistinctKeys := by
    unfold ForeignMapping.HasDistinctKeys
    decide +kernel
  exact ⟨hkeys, fun _ _ _ => rfl, hsensitive hkeys fun _ _ _ => rfl, fun _ _ _ => rfl, hdistinct.1,
    hlower (.inl fun _ _ _ => rfl) hdistinct.1 hfoo, fun _ _ _ => rfl, hdistinct.2,
    hascii (.inr fun _ _ _ => rfl) hdistinct.2 hbar, rfl, hempty rfl⟩

end Store

end DuckTyping
