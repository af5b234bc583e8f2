import DuckTyping.Conversion.Builtin
import Mathlib.Data.Finset.Card
import Mathlib.Data.Sym.Sym2

set_option autoImplicit false

/-!
# The last registration decides

Between two kinds a registry stores one converter, in one of the two orientations: the last that was
registered for the two, whichever way round the earlier ones were registered. One registration step
keeps this, so it holds after any number of them, and with it every answer of a registry is read off
the list of registrations: which pairs of types convert, which function runs, in which direction,
and how many converters there are. What a function answers is its own affair: one that asks another
registry may report that there is no converter, though it is one itself.
-/

namespace DuckTyping

namespace Converter

/-- The two kinds that a converter connects, in no order. -/
def kinds (c : Converter) : Sym2 TypeKind := s(c.source, c.target)

/-- The direction of a converter that leads away from a kind: its parser if the kind is its source,
else its formatter. -/
def leaving (c : Converter) (kind : TypeKind) : Conversion :=
  if c.source = kind then c.parse else c.format

theorem connects_iff {c : Converter} {a b : TypeKind} :
    c.connects a b = true ↔ c.kinds = s(a, b) := by
  simp [connects, kinds]

end Converter

namespace Registry

/-- The converter between two kinds that was registered last. -/
def lastBetween (history : List Converter) (kinds : Sym2 TypeKind) : Option Converter :=
  history.reverse.find? fun c => c.kinds = kinds

/-- The registry that a list of registrations leads to, from the empty or the default registry. The
default converters are registrations like any other. -/
inductive ReachedBy : List Converter → Registry → Prop
  | empty : ReachedBy [] Registry.empty
  | default : ReachedBy Conversion.builtins Registry.default
  | register {history : List Converter} {r : Registry} (c : Converter) (h : ReachedBy history r) :
      ReachedBy (history ++ [c]) (r.register c)

/-! ## What a registration keeps -/

/-- No two converters of the registry connect the same kinds, and each is the last that was
registered for its kinds. -/
structure KeepsLast (r : Registry) (history : List Converter) : Prop where
  distinct : (r.converters.map Converter.kinds).Nodup
  last : ∀ kinds, (r.converters.find? fun c => c.kinds = kinds) = lastBetween history kinds

variable {r : Registry} {history : List Converter}

theorem lastBetween_concat (history : List Converter) (c : Converter) (kinds : Sym2 TypeKind) :
    lastBetween (history ++ [c]) kinds =
      if c.kinds = kinds then some c else lastBetween history kinds := by
  by_cases h : c.kinds = kinds <;> simp [lastBetween, h]

/-- A registration is found under its own kinds and hides nothing under any others. -/
theorem find?_register (r : Registry) (c : Converter) (kinds : Sym2 TypeKind) :
    ((r.register c).converters.find? fun d => d.kinds = kinds) =
      if c.kinds = kinds then some c else r.converters.find? fun d => d.kinds = kinds := by
  rw [register, List.find?_cons]
  by_cases h : c.kinds = kinds
  · simp [h]
  · -- what the registration removes has the kinds of `c`, and so not the kinds looked for
    have hkept : ∀ d : Converter, d.kinds = kinds → d.connects c.source c.target = false := by
      intro d hd
      rw [Bool.eq_false_iff, ne_eq, Converter.connects_iff, hd]
      exact fun hkinds => h hkinds.symm
    simp only [h, decide_false, if_false, List.find?_filter]
    congr 1
    funext d
    by_cases hd : d.kinds = kinds <;> simp [hd, hkept]

theorem keepsLast_empty : empty.KeepsLast [] := ⟨List.nodup_nil, fun _ => rfl⟩

/-- Registering a converter makes it the last one between its kinds, in place of any other. -/
theorem KeepsLast.register (h : r.KeepsLast history) (c : Converter) :
    (r.register c).KeepsLast (history ++ [c]) where
  distinct := by
    refine List.nodup_cons.2 ⟨fun hmem => ?_, h.distinct.sublist (List.filter_sublist.map _)⟩
    obtain ⟨d, hd, hkinds⟩ := List.mem_map.1 hmem
    have hother := (List.mem_filter.1 hd).2
    rw [Converter.connects_iff.2 hkinds] at hother
    cases hother
  last kinds := by rw [find?_register, lastBetween_concat, h.last]

theorem KeepsLast.registerAll (h : r.KeepsLast history) (cs : List Converter) :
    (cs.foldl Registry.register r).KeepsLast (history ++ cs) := by
  induction cs generalizing r history with
  | nil =>
    rw [List.append_nil]
    exact h
  | cons c rest ih =>
    have hrest := ih (h.register c)
    rw [List.append_assoc] at hrest
    exact hrest

theorem ReachedBy.keepsLast (h : ReachedBy history r) : r.KeepsLast history := by
  induction h with
  | empty => exact keepsLast_empty
  | default => exact keepsLast_empty.registerAll Conversion.builtins
  | register c _ ih => exact ih.register c

/-! ## Look-ups -/

theorem KeepsLast.lastBetween_of_mem (h : r.KeepsLast history) {c : Converter}
    (hc : c ∈ r.converters) : lastBetween history c.kinds = some c := by
  rw [← h.last]
  cases hfound : r.converters.find? fun d => d.kinds = c.kinds with
  | none =>
    have hnone := List.find?_eq_none.1 hfound c hc
    simp at hnone
  | some d =>
    have hkinds : d.kinds = c.kinds := by simpa using List.find?_some hfound
    rw [List.inj_on_of_nodup_map h.distinct (List.mem_of_find?_eq_some hfound) hc hkinds]

theorem kinds_of_lastBetween {kinds : Sym2 TypeKind} {c : Converter}
    (h : lastBetween history kinds = some c) : c.kinds = kinds := by
  simpa using List.find?_some h

/-- In one orientation the last converter between the two kinds is found, if it is the orientation
in which it was registered. -/
theorem KeepsLast.find?_oriented (h : r.KeepsLast history) (a b : TypeKind) :
    (r.converters.find? fun c => c.source == a && c.target == b) =
      (lastBetween history s(a, b)).filter fun c => c.source == a && c.target == b := by
  have hlast : ∀ c, (r.converters.find? fun c => c.source == a && c.target == b) = some c →
      lastBetween history s(a, b) = some c ∧ (c.source == a && c.target == b) = true := by
    intro c hfound
    have horiented : (c.source == a && c.target == b) = true :=
      List.find?_some (p := fun c : Converter => c.source == a && c.target == b) hfound
    have hkinds : c.source = a ∧ c.target = b := by simpa using horiented
    refine ⟨?_, horiented⟩
    rw [← hkinds.1, ← hkinds.2]
    exact h.lastBetween_of_mem (List.mem_of_find?_eq_some hfound)
  refine Option.ext fun c => ?_
  rw [Option.filter_eq_some_iff]
  constructor
  · exact hlast c
  · rintro ⟨hc, horiented⟩
    have hmem : c ∈ r.converters := List.mem_of_find?_eq_some ((h.last _).trans hc)
    cases hfound : r.converters.find? fun c => c.source == a && c.target == b with
    | none => exact absurd horiented (List.find?_eq_none.1 hfound c hmem)
    | some d => exact (hlast d hfound).1.symm.trans hc

/-- Both orientations are looked for, so what is found is the last converter between the two kinds,
in the direction that leads away from the first. -/
theorem KeepsLast.find?_eq (h : r.KeepsLast history) (a b : TypeKind) :
    r.find? a b = (lastBetween history s(a, b)).map (·.leaving a) := by
  have hbackward := h.find?_oriented b a
  rw [Sym2.eq_swap] at hbackward
  rw [find?, h.find?_oriented a b, hbackward]
  cases hlast : lastBetween history s(a, b) with
  | none => rfl
  | some c =>
    rcases Sym2.eq_iff.1 (kinds_of_lastBetween hlast) with ⟨rfl, rfl⟩ | ⟨rfl, rfl⟩
    · simp [Option.filter, Converter.leaving]
    · -- a converter of one kind with itself is found in the first orientation already
      by_cases hsame : c.source = c.target <;> simp [Option.filter, Converter.leaving, hsame]

theorem isSome_lastBetween_iff (history : List Converter) (kinds : Sym2 TypeKind) :
    (lastBetween history kinds).isSome = true ↔ kinds ∈ history.map Converter.kinds := by
  simp [lastBetween, List.find?_isSome]

/-- There are as many converters as pairs of kinds for which one was registered. -/
theorem KeepsLast.size_eq (h : r.KeepsLast history) :
    r.size = (history.map Converter.kinds).toFinset.card := by
  have hkinds : (r.converters.map Converter.kinds).toFinset =
      (history.map Converter.kinds).toFinset := by
    ext kinds
    rw [List.mem_toFinset, List.mem_toFinset, ← isSome_lastBetween_iff history, ← h.last]
    simp [List.find?_isSome]
  rw [← hkinds, List.toFinset_card_of_nodup h.distinct, List.length_map, size]

/-! ## What registrations decide -/

/-- A converter is stored with this source and this target. -/
def Stores (r : Registry) (source target : TypeKind) : Prop :=
  ∃ c ∈ r.converters, c.source = source ∧ c.target = target

/-- The last registration for two kinds decides what the registry does between them. -/
structure DecidedBy (r : Registry) (history : List Converter) : Prop where
  exclusive : ∀ a b, a ≠ b → ¬ (r.Stores a b ∧ r.Stores b a)
  symmetric : ∀ s t, r.canConvert s t = r.canConvert t s
  runs : ∀ v t c, v.isNull = false → v.conformsTo t = false →
    lastBetween history s(v.valueType.kind, t.kind) = some c →
    r.convert v t = if c.source = v.valueType.kind then c.parse v t else c.format v t
  lacks : ∀ v t, v.isNull = false → v.conformsTo t = false →
    lastBetween history s(v.valueType.kind, t.kind) = none →
    r.convert v t = .error (.noConverter v.valueType t)
  /-- that there is no converter is reported exactly where none was registered, and where the
  function that runs reports it itself -/
  refuses : ∀ v t, v.isNull = false → v.conformsTo t = false →
    ((∃ source target, r.convert v t = .error (.noConverter source target)) ↔
      lastBetween history s(v.valueType.kind, t.kind) = none ∨
        ∃ c source target, lastBetween history s(v.valueType.kind, t.kind) = some c ∧
          c.leaving v.valueType.kind v t = .error (.noConverter source target))
  size : r.size = (history.map Converter.kinds).toFinset.card

theorem KeepsLast.not_stores_both (h : r.KeepsLast history) {a b : TypeKind} (hdiffer : a ≠ b) :
    ¬ (r.Stores a b ∧ r.Stores b a) := by
  rintro ⟨⟨c, hc, rfl, rfl⟩, d, hd, hsource, htarget⟩
  have hkinds : c.kinds = d.kinds := by
    rw [Converter.kinds, Converter.kinds, hsource, htarget, Sym2.eq_swap]
  have hsame : c = d := List.inj_on_of_nodup_map h.distinct hc hd hkinds
  exact hdiffer (hsame ▸ hsource)

theorem KeepsLast.convert_eq (h : r.KeepsLast history) {v : Value} {t : ValueType}
    (hnull : v.isNull = false) (hfits : v.conformsTo t = false) :
    r.convert v t = match lastBetween history s(v.valueType.kind, t.kind) with
      | some c => c.leaving v.valueType.kind v t
      | none => .error (.noConverter v.valueType t) := by
  rw [convert, h.find?_eq]
  cases lastBetween history s(v.valueType.kind, t.kind) <;> simp [hnull, hfits]

/-- **The last registration decides.** After any registrations, whether they start from the empty
or from the default registry, what the registry does between two kinds is decided, in both
directions, by the last registration for the two. -/
theorem last_registration_decides (h : ReachedBy history r) : r.DecidedBy history where
  exclusive a b hdiffer := h.keepsLast.not_stores_both hdiffer
  symmetric s t := by
    simp only [canConvert, h.keepsLast.find?_eq, Option.isSome_map]
    rw [Sym2.eq_swap]
  runs v t c hnull hfits hlast := by
    rw [h.keepsLast.convert_eq hnull hfits, hlast]
    simp only [Converter.leaving]
    split <;> rfl
  lacks v t hnull hfits hlast := by rw [h.keepsLast.convert_eq hnull hfits, hlast]
  refuses v t hnull hfits := by
    rw [h.keepsLast.convert_eq hnull hfits]
    cases lastBetween history s(v.valueType.kind, t.kind) <;> simp
  size := h.keepsLast.size_eq

/-- A default converter is replaced by one that is registered the other way round, and a converter
between two enumerations is added: booleans are written and read by the new converter, now from its
source and now from its target. -/
theorem last_registration_decides_reversed :
    let yesNo : Converter := ⟨.boolean, .text,
      fun v _ => .ok (.text (if v.bool? = some true then "yes" else "no")),
      fun v _ => .ok (.bool (v.text? = some "yes"))⟩
    let lost : Converter := ⟨.enumeration, .enumeration, fun _ _ => .ok .null, fun _ _ => .ok .null⟩
    let history := Conversion.builtins ++ [yesNo] ++ [lost]
    let r := (Registry.default.register yesNo).register lost
    ReachedBy history r ∧ r.DecidedBy history ∧ r.size = 8 ∧
      r.convert (.bool false) .text = .ok (.text "no") ∧
      r.convert (.text "yes") .boolean = .ok (.bool true) := by
  intro yesNo lost history r
  have hreached : ReachedBy history r := .register lost (.register yesNo .default)
  have hdecided := last_registration_decides hreached
  have hlast : lastBetween history s(.boolean, .text) = some yesNo := rfl
  have hwritten := hdecided.runs (.bool false) .text yesNo rfl (by decide +kernel) hlast
  have hread := hdecided.runs (.text "yes") .boolean yesNo rfl (by decide +kernel) hlast
  exact ⟨hreached, hdecided, rfl, hwritten, hread⟩

/-- A converter between texts and booleans that leaves its work to another registry, which knows
none: the registration is there, and runs, and the report is that there is no converter. -/
theorem registered_converter_reports_none :
    let relay : Converter := ⟨.text, .boolean, empty.convert, empty.convert⟩
    let r := empty.register relay
    ReachedBy [relay] r ∧ r.canConvert .text .boolean = true ∧
      (Value.text "yes").isNull = false ∧ (Value.text "yes").conformsTo .boolean = false ∧
      ¬ (r.convert (.text "yes") .boolean = .error (.noConverter .text .boolean) ↔
        lastBetween [relay] s(.text, .boolean) = none) := by
  intro relay r
  have hfits : (Value.text "yes").conformsTo .boolean = false := by decide +kernel
  have hlast : lastBetween [relay] s(.text, .boolean) = some relay := rfl
  have hreports : r.convert (.text "yes") .boolean = .error (.noConverter .text .boolean) := by
    have hempty : empty.convert (.text "yes") .boolean = .error (.noConverter .text .boolean) := by
      rw [convert, hfits]
      rfl
    rw [convert, hfits]
    exact hempty
  refine ⟨.register relay .empty, rfl, rfl, hfits, fun h => ?_⟩
  rw [h.1 hreports] at hlast
  cases hlast

end Registry

end DuckTyping
