import DuckTyping.Proofs.AdapterWrites
import DuckTyping.Proofs.TypedReads

set_option autoImplicit false

/-!
# Values that pass unaltered

An inspector that may not convert plans no conversion, and its adapters make none. Then what a read
gives is what the source has, and what a write takes is what the source gets, be the source a
mapping or an object and the adapter a nested one, whatever has become of the source since the plan
was made.
-/

namespace DuckTyping

/-! ## Plans without a conversion -/

namespace Inspector

variable {i : Inspector} {m : Member} {key : String} {stored declared : ValueType}

theorem allowConversion_of_resolveMember {schema : Shape}
    (h : i.resolveMember schema m = .convertible key stored declared) :
    i.options.allowConversion = true := by
  have hresolves := i.resolvesMember_resolveMember schema m
  rw [h] at hresolves
  cases hresolves with
  | property _ _ hproperty =>
    cases hproperty with
    | convertible hallowed _ => exact hallowed

/-- Only an inspector that may convert plans to convert what a source has. -/
theorem allowConversion_of_resolution {σ : Store} {source : Source}
    (h : i.resolution σ source m = .convertible key stored declared) :
    i.options.allowConversion = true := by
  cases source with
  | object o => exact allowConversion_of_resolveMember h
  | map ref =>
    have hresolves := i.resolvesKey_resolution σ ref m
    rw [h] at hresolves
    cases hresolves with
    | property _ hvalue =>
      cases resolves_of_resolveValue hvalue rfl with
      | convertible _ hallowed _ => exact hallowed

end Inspector

namespace Adapter

variable {i : Inspector} {a : Adapter} {σ after : Store} {name key : String} {v w : Value}

/-- Where conversion is off, no entry of the plan of an adapter is convertible. -/
theorem IsPlanned.ne_convertible (h : a.IsPlanned i) (hoff : i.options.allowConversion = false)
    {e : PlanEntry} (he : e ∈ a.plan.entries) (key : String) (stored declared : ValueType) :
    e.resolution ≠ .convertible key stored declared := by
  intro hconvertible
  obtain ⟨shape, resolve, _, hentries, hresolve⟩ := h.exists_entries
  rw [hentries] at he
  obtain ⟨m, _, rfl⟩ := List.mem_map.1 he
  have hallowed : i.options.allowConversion = true := by
    rcases hresolve with ⟨σ, source, rfl⟩ | ⟨schema, rfl⟩
    · exact Inspector.allowConversion_of_resolution hconvertible
    · exact Inspector.allowConversion_of_resolveMember hconvertible
  rw [hoff] at hallowed
  cases hallowed

theorem eq_of_coerce (hoff : a.inspector.options.allowConversion = false) {t : ValueType}
    (h : a.coerce v t = .ok w) : w = v := by
  unfold coerce at h
  split at h
  · exact (Except.ok.inj h).symm
  · rw [hoff] at h
    cases h

/-! ## What the source has and gets -/

/-- The value is what the source has at present: a mapping under a key, through a view with the
sensitivity of the plan, and an object in a member. -/
def Yields (a : Adapter) (σ : Store) (key : String) (v : Value) : Prop :=
  match a.source with
  | .map m => (σ.wrap m (some a.plan.caseSensitive)).lookUp? σ key = some v
  | .object o => σ.readMember o key = .ok v

/-- The source has taken the value, and the store is as this leaves it: a mapping under a key,
through a view with the sensitivity of the plan, and an object in a member. -/
def Takes (a : Adapter) (σ : Store) (key : String) (v : Value) (after : Store) : Prop :=
  match a.source with
  | .map m => σ.insert (σ.wrap m (some a.plan.caseSensitive)).ref key v = .ok after
  | .object o => σ.writeMember o key v = .ok after

theorem yields_of_fetch (h : a.fetch σ key = .ok v) : a.Yields σ key v := by
  unfold fetch at h
  unfold Yields
  cases hsource : a.source with
  | map m =>
    simp only [hsource] at h ⊢
    split at h
    · rename_i hfound
      cases h
      exact hfound
    · cases h
  | object o =>
    simp only [hsource] at h ⊢
    split at h
    · rename_i hread
      cases h
      exact hread
    · cases h

theorem takes_of_deliver (h : a.deliver σ name key v = .ok after) : a.Takes σ key v after := by
  unfold deliver at h
  unfold Takes
  cases hsource : a.source with
  | map m =>
    simp only [hsource] at h ⊢
    split at h
    · cases h
    · exact eq_ok_of_outcome h
  | object o =>
    simp only [hsource] at h ⊢
    split at h
    · exact eq_ok_of_outcome h
    · cases h

/-- In both directions the adapter passes values on as they are, in every store. -/
structure PassesOn (a : Adapter) : Prop where
  /-- nothing is planned to be converted -/
  entries : ∀ e ∈ a.plan.entries, ∀ key stored declared,
    e.resolution ≠ .convertible key stored declared
  /-- what is read is what the source has, unless the plan found the member absent -/
  read : ∀ {σ : Store} {name : String} {v : Value}, a.read σ name = .ok v →
    (a.plan.resolution? name = some .absent ∧ v = .null) ∨
      ∃ r key, a.plan.resolution? name = some r ∧ r.source? = some key ∧ a.Yields σ key v
  /-- what is written is what the source takes, as a new key if the plan found the member absent -/
  write : ∀ {σ after : Store} {name : String} {v : Value}, a.write σ name v = .ok after →
    ∃ r, a.plan.resolution? name = some r ∧ a.Takes σ (r.source?.getD name) v after

section PassingOn

variable {e : PlanEntry} (hplanned : a.IsPlanned i) (hoff : i.options.allowConversion = false)
  (he : a.plan.entryFor? name = some e)

include hplanned hoff he

/-- What is read where the plan converts nothing. -/
theorem yields_of_read (hproperty : e.member.isProperty = true) (hread : a.read σ name = .ok v) :
    (e.resolution = .absent ∧ v = .null) ∨
      ∃ key, e.resolution.source? = some key ∧ a.Yields σ key v := by
  have hsatisfiable := hplanned.isSatisfiable
  have hmem := (Plan.mem_of_entryFor? he).1
  cases hr : e.resolution with
  | direct key =>
    rw [read_of_direct hsatisfiable he hproperty σ hr] at hread
    obtain ⟨found, hfetch, hcoerce⟩ := exists_of_bind_eq_ok hread
    obtain rfl : v = found := eq_of_coerce (hplanned.inspector ▸ hoff) hcoerce
    exact .inr ⟨key, rfl, yields_of_fetch hfetch⟩
  | nested key =>
    rw [read_of_nested hsatisfiable he hproperty σ hr] at hread
    exact .inr ⟨key, rfl, yields_of_fetch hread⟩
  | convertible key stored declared =>
    exact absurd hr (hplanned.ne_convertible hoff hmem key stored declared)
  | absent =>
    rw [read_of_absent hsatisfiable he hproperty σ hr] at hread
    exact .inl ⟨rfl, (Except.ok.inj hread).symm⟩
  | method key signature =>
    rw [read_of_method hsatisfiable he hproperty σ hr] at hread
    cases hread
  | unresolved reason =>
    have hresolved := Plan.isUnresolved_of_mem hsatisfiable hmem
    rw [hr] at hresolved
    cases hresolved

theorem takes_of_write (hwrite : a.write σ name v = .ok after) :
    a.Takes σ (e.resolution.source?.getD name) v after := by
  have hsatisfiable := hplanned.isSatisfiable
  obtain ⟨hmem, hname⟩ := Plan.mem_of_entryFor? he
  obtain ⟨-, typed, hcoerce, hplace⟩ := exists_place_of_write hsatisfiable he hwrite
  obtain rfl : typed = v := eq_of_coerce (hplanned.inspector ▸ hoff) hcoerce
  obtain ⟨w, hstored, hdeliver, -⟩ :=
    exists_deliver_of_place (Plan.isUnresolved_of_mem hsatisfiable hmem) hplace
  have hkept : a.toStored e typed = .ok typed := by
    unfold toStored
    split
    · rename_i key stored declared hr
      exact absurd hr (hplanned.ne_convertible hoff hmem key stored declared)
    · rfl
  obtain rfl : typed = w := Except.ok.inj (hkept.symm.trans hstored)
  rw [hname] at hdeliver
  exact takes_of_deliver hdeliver

end PassingOn

/-- **Where conversion is off, values pass unaltered.** With any converters and any other options,
and however the adapter was obtained, its plan converts nothing. In every store, whatever has become
of the source, a read that succeeds gives what the source has for the key or member of the plan, or
null for a member that is absent, and a write that succeeds hands the source the very value. -/
theorem passesOn_of_conversion_off (hoff : i.options.allowConversion = false)
    (ha : Obtained i a) : a.PassesOn := by
  have hplanned := ha.isPlanned
  refine ⟨fun e he => hplanned.ne_convertible hoff he, ?_, ?_⟩
  · intro σ name v hread
    obtain ⟨c, hc, _⟩ := exists_of_bind_eq_ok hread
    obtain ⟨e, he, -, hproperty⟩ := exists_entryFor?_of_property hplanned.isSatisfiable hc
    have hresolution : a.plan.resolution? name = some e.resolution := by
      rw [Plan.resolution?_eq_map_entryFor?, he, Option.map_some]
    refine (yields_of_read hplanned hoff he hproperty hread).imp ?_ ?_
    · rintro ⟨habsent, hnull⟩
      exact ⟨hresolution.trans (congrArg some habsent), hnull⟩
    · rintro ⟨key, hkey, hyields⟩
      exact ⟨e.resolution, key, hresolution, hkey, hyields⟩
  · intro σ after name v hwrite
    obtain ⟨e, _, _, he, -⟩ := exists_deliver_of_write hplanned.isSatisfiable hwrite
    refine ⟨e.resolution, ?_, takes_of_write hplanned hoff he hwrite⟩
    rw [Plan.resolution?_eq_map_entryFor?, he, Option.map_some]

/-- The inner part of a box passes its number on after the dictionaries have changed, and it neither
reads nor takes a text in place of the number. -/
theorem passesOn_of_conversion_off_nested :
    let i : Inspector := ⟨Registry.default, { allowConversion := false }⟩
    let σ := boxStore (.int 7) (.map (.cell 0))
    let later := boxStore (.int 8) .null
    let a : Adapter := ⟨i, boxShape, .map (.cell 1), i.inspect σ boxShape (.map (.cell 1))⟩
    ∃ b, a.nested σ "Inner" = .ok b ∧ i.options.allowConversion = false ∧ Obtained i b ∧
      b.PassesOn ∧ b.read later "Id" = .ok (.int 8) ∧
      (b.write later "Id" (.int 9)).isOk = true ∧
      (b.read (boxStore (.text "8") .null) "Id").isOk = false ∧
      (b.write later "Id" (.text "9")).isOk = false := by
  intro i σ later a
  let inner : Shape := ⟨0, "Inner", [⟨"Id", .property .integer true, false⟩]⟩
  let source : Source := .map (.view none (.cell 0) .ignoreCase)
  let b : Adapter := ⟨i, inner, source, i.inspect σ inner source⟩
  have ha : Obtained i a :=
    .adapted [] σ boxShape (.map (.cell 1)) (build_eq_ok_iff.2 ⟨by decide +kernel, rfl⟩)
  have hnested : a.nested σ "Inner" = .ok b := by with_unfolding_all rfl
  have hb := ha.nested σ "Inner" hnested
  have hread : b.read later "Id" = .ok (.int 8) := by with_unfolding_all rfl
  exact ⟨b, hnested, rfl, hb, passesOn_of_conversion_off rfl hb, hread, by decide +kernel,
    by decide +kernel, by decide +kernel⟩

end Adapter

end DuckTyping
