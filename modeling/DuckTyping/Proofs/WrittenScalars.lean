import DuckTyping.Conversion.Builtin
import DuckTyping.Proofs.CanonicalForm
import DuckTyping.Proofs.WrittenDigits
import Mathlib.Data.List.TakeWhile

set_option autoImplicit false

/-!
# Scalars are read back from their texts

White space around a text is removed and nothing else, and the groups of an identifier write its
bits. So an integer, a truth value or an identifier that the default converters write as a text is
read back from it, whatever white space stands around the text.
-/

namespace DuckTyping

/-! ## White space -/

namespace Text

variable {cs : List Char}

/-- White space around a text is removed, and nothing else. -/
theorem trim_surrounded {before after : List Char} (hbefore : ∀ c ∈ before, isWhiteSpace c = true)
    (hafter : ∀ c ∈ after, isWhiteSpace c = true) (cs : List Char) :
    trim (before ++ cs ++ after) = trim cs := by
  have hreverse : ∀ c ∈ after.reverse, isWhiteSpace c = true := fun c hc =>
    hafter c (List.mem_reverse.1 hc)
  have happend : trimStart (cs ++ after) =
      if (trimStart cs).isEmpty then trimStart after else trimStart cs ++ after :=
    List.dropWhile_append
  have hnone : trimStart after = [] := List.dropWhile_eq_nil_iff.2 hafter
  rw [trim, List.append_assoc, trimStart_append_of_white hbefore, happend, trim]
  split
  · rename_i hempty
    rw [hnone, List.isEmpty_iff.1 hempty]
  · rw [List.reverse_append, trimStart_append_of_white hreverse]

theorem trim_of_forall (h : ∀ c ∈ cs, isWhiteSpace c = false) : trim cs = cs := by
  have hstart : ∀ ds : List Char, (∀ c ∈ ds, isWhiteSpace c = false) → trimStart ds = ds := by
    intro ds hds
    refine List.dropWhile_eq_self_iff.2 fun hl => ?_
    rw [hds _ (List.getElem_mem hl)]
    exact Bool.false_ne_true
  rw [trim, hstart cs h, hstart cs.reverse fun c hc => h c (List.mem_reverse.1 hc),
    List.reverse_reverse]

theorem trim_eq_self_of_length_eq (h : (trim cs).length = cs.length) : trim cs = cs := by
  have hsuffix : ∀ ds : List Char, trimStart ds <:+ ds := fun _ =>
    List.dropWhile_suffix isWhiteSpace
  have hfirst := (hsuffix cs).length_le
  have hsecond := (hsuffix (trimStart cs).reverse).length_le
  rw [trim, List.length_reverse] at h
  rw [List.length_reverse] at hsecond
  have hstart : trimStart cs = cs := (hsuffix cs).eq_of_length (by omega)
  have hend : trimStart (trimStart cs).reverse = (trimStart cs).reverse :=
    (hsuffix _).eq_of_length (by rw [List.length_reverse]; omega)
  rw [trim, hend, List.reverse_reverse, hstart]

end Text

namespace Uuid

open Number

/-! ## Identifiers -/

theorem byteLength_cons (c : Char) (cs : List Char) :
    byteLength (c :: cs) = c.utf8Size + byteLength cs := rfl

theorem byteLength_append (cs ds : List Char) :
    byteLength (cs ++ ds) = byteLength cs + byteLength ds := by
  induction cs with
  | nil => exact (Nat.zero_add _).symm
  | cons c rest ih => rw [List.cons_append, byteLength_cons, byteLength_cons, ih, Nat.add_assoc]

theorem withPositions_append (p : Nat) (cs ds : List Char) :
    withPositions p (cs ++ ds) = withPositions p cs ++ withPositions (p + byteLength cs) ds := by
  induction cs generalizing p with
  | nil => rfl
  | cons c rest ih =>
    rw [List.cons_append, withPositions, ih, withPositions, List.cons_append, byteLength_cons,
      Nat.add_assoc]

theorem utf8Size_of_isHexDigit {c : Char} (h : isHexDigit c = true) : c.utf8Size = 1 :=
  if_pos (UInt32.le_trans (range_of_isHexDigit h).2 (by decide))

theorem byteLength_of_isHexDigit {cs : List Char} (h : ∀ c ∈ cs, isHexDigit c = true) :
    byteLength cs = cs.length := by
  induction cs with
  | nil => rfl
  | cons c rest ih =>
    rw [List.forall_mem_cons] at h
    rw [byteLength_cons, ih h.2, utf8Size_of_isHexDigit h.1, List.length_cons, Nat.add_comm]

theorem byteLength_renderHex (width n : Nat) : byteLength (renderHex width n) = width := by
  rw [byteLength_of_isHexDigit fun c => isHexDigit_of_mem_renderHex, length_renderHex]

/-- The character is one that hyphenated groups have at this position. -/
def fitsGroups : Char × Nat → Bool
  | (c, p) => if p ∈ groups.map Group.hyphen then c == '-' else isHexDigit c

theorem isHyphenated_eq (cs : List Char) :
    isHyphenated cs = (byteLength cs == 36 && (withPositions 0 cs).all fitsGroups) := rfl

/-- Digits fit where no hyphen has to stand. -/
theorem all_fitsGroups {cs : List Char} (h : ∀ c ∈ cs, isHexDigit c = true) {p : Nat}
    (hfree : ∀ q, p ≤ q → q < p + cs.length → q ∉ groups.map Group.hyphen) :
    (withPositions p cs).all fitsGroups = true := by
  induction cs generalizing p with
  | nil => rfl
  | cons c rest ih =>
    rw [List.forall_mem_cons] at h
    have hfirst : fitsGroups (c, p) = true := by
      have hp : p ∉ groups.map Group.hyphen :=
        hfree p le_rfl (by rw [List.length_cons]; omega)
      rw [fitsGroups, if_neg hp]
      exact h.1
    have hrest : (withPositions (p + 1) rest).all fitsGroups = true := by
      refine ih h.2 fun q hlow hhigh => hfree q (by omega) ?_
      rw [List.length_cons]
      omega
    rw [withPositions, utf8Size_of_isHexDigit h.1, List.all_cons, hfirst, hrest]
    rfl

theorem all_fitsGroups_renderHex {p width : Nat} (n : Nat)
    (hfree : ∀ q, p ≤ q → q < p + width → q ∉ groups.map Group.hyphen) :
    (withPositions p (renderHex width n)).all fitsGroups = true := by
  refine all_fitsGroups (fun c => isHexDigit_of_mem_renderHex) ?_
  rw [length_renderHex]
  exact hfree

theorem isHyphenated_render (u : Uuid) : isHyphenated u.render = true := by
  have hsize : '-'.utf8Size = 1 := rfl
  have hhyphens : groups.map Group.hyphen = [8, 13, 18, 23] := rfl
  rw [isHyphenated_eq, render]
  simp only [hsize, byteLength_append, byteLength_cons, byteLength_renderHex, withPositions_append,
    withPositions, List.all_append, List.all_cons, Bool.and_eq_true]
  refine ⟨rfl, ⟨⟨⟨?_, rfl, ?_⟩, rfl, ?_⟩, rfl, ?_⟩, rfl, ?_⟩
  all_goals
    refine all_fitsGroups_renderHex _ fun q hlow hhigh => ?_
    rw [hhyphens]
    simp only [List.mem_cons, List.not_mem_nil, or_false]
    omega

theorem filter_renderHex (width n : Nat) :
    (renderHex width n).filter (· ≠ '-') = renderHex width n := by
  refine List.filter_eq_self.2 fun c hc => ?_
  have hhex := isHexDigit_of_mem_renderHex hc
  rw [decide_eq_true_iff]
  rintro rfl
  exact absurd hhex (by decide)

theorem filter_render (u : Uuid) : u.render.filter (· ≠ '-') = renderHex 32 u.bits.toNat := by
  have hskip : ∀ cs : List Char, ('-' :: cs).filter (· ≠ '-') = cs.filter (· ≠ '-') := fun _ => rfl
  rw [render]
  simp only [List.append_assoc, List.cons_append, List.filter_append, hskip, filter_renderHex]
  have happend := fun m width => renderHex_append m width u.bits.toNat
  calc
    _ = renderHex 8 (u.bits.toNat / 16 ^ 24) ++ (renderHex 4 (u.bits.toNat / 16 ^ 20) ++
        (renderHex 4 (u.bits.toNat / 16 ^ 16) ++ (renderHex 4 (u.bits.toNat / 16 ^ 12) ++
          renderHex 12 u.bits.toNat))) := rfl
    _ = renderHex 32 u.bits.toNat := by
      rw [happend 4 12, happend 4 16, happend 4 20, happend 8 24]

/-- An identifier is read back from its text. -/
theorem parse_render (u : Uuid) : parse u.render = .ok u := by
  have hlength : byteLength u.render = 36 := by
    have h := isHyphenated_render u
    rw [isHyphenated_eq, Bool.and_eq_true, beq_iff_eq] at h
    exact h.1
  have hplain : plain? u.render = none := by
    rw [plain?, hlength]
    rfl
  have hdigits : digits? u.render = some (renderHex 32 u.bits.toNat) := by
    rw [digits?, hplain, hyphenated?, if_pos (isHyphenated_render u), filter_render]
    rfl
  have hvalue : BitVec.ofNat 128 (hexValue (renderHex 32 u.bits.toNat)) = u.bits := by
    have hlt : u.bits.toNat < 16 ^ 32 := u.bits.isLt
    rw [hexValue_renderHex, Nat.mod_eq_of_lt hlt]
    exact BitVec.eq_of_toNat_eq (by simp)
  rw [parse, hdigits]
  simp only [ofDigits, hvalue]

end Uuid

/-- A text of white space only. -/
def Text.IsBlank (s : String) : Prop := ∀ c ∈ s.toList, Text.isWhiteSpace c = true

/-- The default converters write the value as a text and read it back from there, whatever white
space stands around the text. -/
def Value.IsReadBack (v : Value) : Prop :=
  ∃ s, Registry.default.convert v .text = .ok (.text s) ∧
    ∀ before after : String, Text.IsBlank before → Text.IsBlank after →
      Registry.default.convert (.text (before ++ s ++ after)) v.valueType = .ok v

namespace Text

theorem isWhiteSpace_of_visible {c : Char} (hlow : '!' ≤ c) (hhigh : c ≤ '~') :
    isWhiteSpace c = false := by
  have h1 : 0x21 ≤ c.toNat := hlow
  have h2 : c.toNat ≤ 0x7E := hhigh
  rw [Bool.eq_false_iff]
  simp only [isWhiteSpace, ne_eq, Bool.or_eq_true, Bool.and_eq_true, decide_eq_true_eq, beq_iff_eq]
  omega

theorem isWhiteSpace_of_all {cs : List Char} (h : (cs.all fun c => !isWhiteSpace c) = true) :
    ∀ c ∈ cs, isWhiteSpace c = false := by
  intro c hc
  have hvisible := List.all_eq_true.1 h c hc
  rwa [Bool.not_eq_true'] at hvisible

theorem isWhiteSpace_of_isDigit {c : Char} (h : c.isDigit = true) : isWhiteSpace c = false := by
  rw [Char.isDigit, Bool.and_eq_true, decide_eq_true_eq, decide_eq_true_eq] at h
  exact isWhiteSpace_of_visible (UInt32.le_trans (by decide) h.1)
    (UInt32.le_trans h.2 (by decide))

theorem isWhiteSpace_of_isHexDigit {c : Char} (h : Number.isHexDigit c = true) :
    isWhiteSpace c = false := by
  have hrange := Number.range_of_isHexDigit h
  exact isWhiteSpace_of_visible (UInt32.le_trans (by decide) hrange.1)
    (UInt32.le_trans hrange.2 (by decide))

end Text

/-! ## Values -/

theorem Value.kind_eq_of_conformsTo {v : Value} {t : ValueType} (h : v.conformsTo t = true)
    (hnull : v.isNull = false) (hany : t.kind ≠ .any) (hshape : t.kind ≠ .shape) :
    v.valueType.kind = t.kind := by
  unfold conformsTo at h
  split at h
  · exact absurd rfl hany
  · cases hnull
  · exact absurd rfl hshape
  · exact absurd rfl hshape
  · rfl
  · rw [← ValueType.kind_canonical, ← ValueType.kind_canonical t, ValueType.same_iff.1 h]

/-- A value of another kind is handed to the converter between the two kinds. -/
theorem Registry.convert_of_find? {r : Registry} {v : Value} {t : ValueType}
    {conversion : Conversion} (hnull : v.isNull = false) (hany : t.kind ≠ .any)
    (hshape : t.kind ≠ .shape) (hkind : v.valueType.kind ≠ t.kind)
    (hfind : r.find? v.valueType.kind t.kind = some conversion) :
    r.convert v t = conversion v t := by
  have hfits : v.conformsTo t = false := Bool.eq_false_iff.2 fun hfits =>
    hkind (Value.kind_eq_of_conformsTo hfits hnull hany hshape)
  rw [convert, hnull, hfits, Bool.or_false, if_neg Bool.false_ne_true, hfind]

namespace Conversion

/-- The white space around a text does not matter to a reader. -/
theorem reading_surrounded {read : List Char → ValueType → Except Unreadable Value}
    {cs : List Char} (hcs : Text.trim cs = cs) {target : ValueType} {w : Value}
    (hread : read cs target = .ok w) {before after : String} (hbefore : Text.IsBlank before)
    (hafter : Text.IsBlank after) :
    reading read (.text (before ++ String.ofList cs ++ after)) target = .ok w := by
  have htrim : Text.trim (before ++ String.ofList cs ++ after).toList = cs := by
    rw [String.toList_append, String.toList_append, String.toList_ofList,
      Text.trim_surrounded hbefore hafter, hcs]
  rw [reading, htrim, hread]

end Conversion

namespace Value

open Number

section Written

variable {v : Value} {t : ValueType} {cs : List Char}
  {read : List Char → ValueType → Except Unreadable Value}

/-- A value is written as a text without white space, and the text reads as it does without any
around it. -/
theorem written_and_read (htype : v.valueType = t) (hnull : v.isNull = false)
    (hany : t.kind ≠ .any) (hshape : t.kind ≠ .shape) (hkind : t.kind ≠ .text)
    (hformat : Registry.default.find? t.kind .text = some Conversion.formatText)
    (hparse : Registry.default.find? .text t.kind = some (Conversion.reading read))
    (htext : Conversion.textOf? v = some (String.ofList cs))
    (hvisible : ∀ c ∈ cs, Text.isWhiteSpace c = false) {w : Value} (hread : read cs t = .ok w) :
    Registry.default.convert v .text = .ok (.text (String.ofList cs)) ∧
      ∀ before after : String, Text.IsBlank before → Text.IsBlank after →
        Registry.default.convert (.text (before ++ String.ofList cs ++ after)) t = .ok w := by
  subst htype
  refine ⟨?_, fun before after hbefore hafter => ?_⟩
  · rw [Registry.convert_of_find? (t := .text) hnull (by decide) (by decide) hkind hformat,
      Conversion.formatText, htext]
  · let surrounded := Value.text (before ++ String.ofList cs ++ after)
    rw [Registry.convert_of_find? (v := surrounded) rfl hany hshape hkind.symm hparse]
    exact Conversion.reading_surrounded (Text.trim_of_forall hvisible) hread hbefore hafter

theorem isReadBack_of_read (htype : v.valueType = t) (hnull : v.isNull = false)
    (hany : t.kind ≠ .any) (hshape : t.kind ≠ .shape) (hkind : t.kind ≠ .text)
    (hformat : Registry.default.find? t.kind .text = some Conversion.formatText)
    (hparse : Registry.default.find? .text t.kind = some (Conversion.reading read))
    (htext : Conversion.textOf? v = some (String.ofList cs))
    (hvisible : ∀ c ∈ cs, Text.isWhiteSpace c = false) (hread : read cs t = .ok v) :
    v.IsReadBack := by
  subst htype
  exact ⟨_, written_and_read rfl hnull hany hshape hkind hformat hparse htext hvisible hread⟩

end Written

theorem isReadBack_int (n : Int64) : (Value.int n).IsReadBack := by
  have hdigit : ∀ c ∈ Nat.toDigits 10 n.toInt.natAbs, Text.isWhiteSpace c = false := by
    intro c hc
    exact Text.isWhiteSpace_of_isDigit (Nat.isDigit_of_mem_toDigits (by decide) (by decide) hc)
  have hvisible : ∀ c ∈ renderInt64 n, Text.isWhiteSpace c = false := by
    rw [renderInt64, renderInt]
    split
    · rw [List.forall_mem_cons]
      exact ⟨rfl, hdigit⟩
    · exact hdigit
  have hread : Conversion.readInteger (renderInt64 n) .integer = .ok (.int n) := by
    rw [Conversion.readInteger, parseInt64_renderInt64]
  exact isReadBack_of_read (t := .integer) rfl rfl (by decide) (by decide) (by decide) rfl rfl
    rfl hvisible hread

theorem isReadBack_bool (b : Bool) : (Value.bool b).IsReadBack := by
  have hread : ∀ b : Bool, ∃ cs, Conversion.textOf? (.bool b) = some (String.ofList cs) ∧
      (∀ c ∈ cs, Text.isWhiteSpace c = false) ∧
      Conversion.readBoolean cs .boolean = .ok (.bool b) := by
    intro b
    cases b with
    | false => exact ⟨"false".toList, rfl, Text.isWhiteSpace_of_all rfl, rfl⟩
    | true => exact ⟨"true".toList, rfl, Text.isWhiteSpace_of_all rfl, rfl⟩
  obtain ⟨cs, htext, hvisible, hread⟩ := hread b
  have hparse : Registry.default.find? .text .boolean =
      some (Conversion.reading Conversion.readBoolean) := rfl
  exact isReadBack_of_read (t := .boolean) rfl rfl (by decide) (by decide) (by decide) rfl hparse
    htext hvisible hread

theorem isReadBack_uuid (u : Uuid) : (Value.uuid u).IsReadBack := by
  have hvisible : ∀ c ∈ u.render, Text.isWhiteSpace c = false := by
    intro c hc
    by_cases hhyphen : c = '-'
    · rw [hhyphen]
      rfl
    · have hdigit : c ∈ u.render.filter (· ≠ '-') :=
        List.mem_filter.2 ⟨hc, decide_eq_true hhyphen⟩
      rw [Uuid.filter_render] at hdigit
      exact Text.isWhiteSpace_of_isHexDigit (isHexDigit_of_mem_renderHex hdigit)
  have hread : Conversion.readUuid u.render .uuid = .ok (.uuid u) := by
    rw [Conversion.readUuid, Uuid.parse_render]
  exact isReadBack_of_read (t := .uuid) rfl rfl (by decide) (by decide) (by decide) rfl rfl
    rfl hvisible hread

end Value

end DuckTyping
