import DuckTyping.Proofs.ViewStack

set_option autoImplicit false

/-!
# Writing through a view

A write through a view goes to the stored key that the view finds; where it finds none, the key is
handed on as it is. Then the dictionary decides, by its own comparison, whether the key is new. If
it is, or if the view found a key, the view finds the value under the key that was written and sees
no difference under any key that it tells apart from it. But a dictionary that ignores case may take
the key for another spelling of one that it has, which the view does tell apart: it overwrites the
value of that key, and the view still does not find the one that was written.
-/

namespace DuckTyping

/-- What a write of `v` under `key` should do to the answers of a mapping that compares keys like
this: the value is found under the key, and under all keys that do not match what was found before.
-/
structure Rewrites (c : KeyComparison) (before after : String → Option Value) (key : String)
    (v : Value) : Prop where
  written : after key = some v
  others : ∀ other, c.keysMatch key other = false → after other = before other

namespace Dictionary

variable {d : Dictionary} {c : KeyComparison} {key : String}

/-- The value under the key that a view with this comparison finds. -/
def lookUp? (d : Dictionary) (c : KeyComparison) (key : String) : Option Value :=
  (d.resolveKey? c key).bind d.get?

/-- The dictionary takes the key for another spelling of a stored one, while a view with this
comparison tells the two apart. -/
def Conflates (d : Dictionary) (c : KeyComparison) (key : String) : Prop :=
  c = .ordinal ∧ d.comparison = .ignoreCase ∧ key ∉ d.keys ∧
    ∃ stored ∈ d.keys, KeyComparison.ignoreCase.keysMatch stored key = true

/-- A key is taken for another one exactly where the dictionary has it and the view does not. -/
theorem conflates_iff : d.Conflates c key ↔ d.resolveKey? c key = none ∧ d.contains key = true := by
  have hresolve : d.resolveKey? c key = none ↔
      ¬ ∃ stored ∈ d.keys, c.keysMatch stored key = true := by
    rw [← isSome_resolveKey?_iff, Option.not_isSome_iff_eq_none]
  have hordinal : (∃ stored ∈ d.keys, KeyComparison.ordinal.keysMatch stored key = true) ↔
      key ∈ d.keys := by
    constructor
    · rintro ⟨stored, hmem, hmatch⟩
      have hkey : stored = key := KeyComparison.keysMatch_iff.1 hmatch
      exact hkey ▸ hmem
    · intro hmem
      exact ⟨key, hmem, KeyComparison.keysMatch_self _ key⟩
  have hliteral : key ∈ d.keys →
      ∃ stored ∈ d.keys, KeyComparison.ignoreCase.keysMatch stored key = true := fun hmem =>
    ⟨key, hmem, KeyComparison.keysMatch_self _ key⟩
  rw [hresolve, contains_iff, Conflates]
  cases c with
  | ordinal =>
    cases hd : d.comparison with
    | ordinal => simp [hordinal]
    | ignoreCase => simp [hordinal]
  | ignoreCase =>
    cases hd : d.comparison with
    | ordinal =>
      rw [hordinal]
      exact ⟨fun h => KeyComparison.noConfusion h.1, fun h => absurd (hliteral h.2) h.1⟩
    | ignoreCase => exact ⟨fun h => KeyComparison.noConfusion h.1, fun h => absurd h.2 h.1⟩

theorem resolveKey?_congr {d' : Dictionary} (h : d'.keys = d.keys) (c : KeyComparison)
    (key : String) : d'.resolveKey? c key = d.resolveKey? c key := by
  rw [resolveKey?, resolveKey?, h]

theorem keys_put_of_contains (h : d.contains key = true) (v : Value) :
    (d.put key v).keys = d.keys := by
  rw [keys_put, if_pos h]

/-- A write to the key that is found does what a write through the view should do. -/
theorem rewrites_put_of_resolveKey? {stored : String} (h : d.resolveKey? c key = some stored)
    (v : Value) : Rewrites c (d.lookUp? c) ((d.put stored v).lookUp? c) key v := by
  have hmem := mem_keys_of_resolveKey? h
  have hcontains : d.contains stored = true :=
    contains_iff.2 ⟨stored, hmem, KeyComparison.keysMatch_self _ stored⟩
  have hresolve := resolveKey?_congr (keys_put_of_contains hcontains v) c
  refine ⟨?_, fun other hother => ?_⟩
  · rw [lookUp?, hresolve, h, Option.bind_some, get?_put, KeyComparison.keysMatch_self]
    rfl
  · rw [lookUp?, hresolve, lookUp?]
    cases hfound : d.resolveKey? c other with
    | none => rfl
    | some found =>
      -- the entry that was written is not the one found under the other key
      have hne : d.comparison.keysMatch stored found = false := by
        rw [Bool.eq_false_iff]
        intro hmatch
        have hsame := eq_of_keysMatch hmem (mem_keys_of_resolveKey? hfound) hmatch
        subst hsame
        have hkey := KeyComparison.keysMatch_iff.1 (keysMatch_of_resolveKey? h)
        have hfound := KeyComparison.keysMatch_iff.1 (keysMatch_of_resolveKey? hfound)
        have hboth : c.keysMatch key other = true :=
          KeyComparison.keysMatch_iff.2 (hkey.symm.trans hfound)
        rw [hboth] at hother
        cases hother
      rw [Option.bind_some, Option.bind_some, get?_put, hne]
      rfl

/-- A write under a key that is new to the dictionary does what a write through the view should do.
-/
theorem rewrites_put_of_contains_eq_false (h : d.contains key = false) (v : Value) :
    Rewrites c (d.lookUp? c) ((d.put key v).lookUp? c) key v := by
  have hkeys : (d.put key v).keys = d.keys ++ [key] := by
    rw [keys_put, h]
    rfl
  have hnone : ∀ stored ∈ d.keys, d.comparison.keysMatch key stored = false := by
    intro stored hmem
    rw [Bool.eq_false_iff, KeyComparison.keysMatch_comm]
    intro hmatch
    exact absurd (contains_iff.2 ⟨stored, hmem, hmatch⟩) (Bool.eq_false_iff.1 h)
  refine ⟨?_, fun other hother => ?_⟩
  · have hmem : key ∈ (d.put key v).keys := by
      rw [hkeys]
      exact List.mem_append_right _ (List.mem_singleton.2 rfl)
    rw [lookUp?, resolveKey?_of_mem hmem, Option.bind_some, get?_put, KeyComparison.keysMatch_self]
    rfl
  · -- the new key is not among the candidates for the other one
    have hresolve : (d.put key v).resolveKey? c other = d.resolveKey? c other := by
      have hne : other ≠ key := by
        rintro rfl
        rw [KeyComparison.keysMatch_self] at hother
        cases hother
      have hmem : other ∈ d.keys ++ [key] ↔ other ∈ d.keys := by simp [hne]
      rw [resolveKey?, hkeys, resolveKey?]
      simp only [hmem]
      cases c with
      | ordinal => rfl
      | ignoreCase => simp [List.find?_append, hother]
    rw [lookUp?, hresolve, lookUp?]
    cases hfound : d.resolveKey? c other with
    | none => rfl
    | some found =>
      rw [Option.bind_some, Option.bind_some, get?_put,
        hnone found (mem_keys_of_resolveKey? hfound)]
      rfl

/-- A key that is taken for another one is not found, even after it was written. -/
theorem lookUp?_put_of_conflates (h : d.Conflates c key) (v : Value) :
    (d.put key v).lookUp? c key = none := by
  obtain ⟨hresolve, hcontains⟩ := conflates_iff.1 h
  rw [lookUp?, resolveKey?_congr (keys_put_of_contains hcontains v), hresolve]
  rfl

/-- A write to the key that is found, or else to the key as it is, does what it should unless the
dictionary takes the key for another one. -/
theorem rewrites_put (h : ¬ d.Conflates c key) (v : Value) :
    Rewrites c (d.lookUp? c) ((d.put ((d.resolveKey? c key).getD key) v).lookUp? c) key v := by
  cases hresolve : d.resolveKey? c key with
  | some stored => exact rewrites_put_of_resolveKey? hresolve v
  | none =>
    have hnew : d.contains key = false := by
      rw [Bool.eq_false_iff]
      exact fun hcontains => h (conflates_iff.2 ⟨hresolve, hcontains⟩)
    exact rewrites_put_of_contains_eq_false hnew v

end Dictionary

namespace Store

variable {σ : Store} {a : Nat} {d : Dictionary}

theorem lookUp?_cell (hd : σ.mapping a = .dictionary d) (c : KeyComparison) (key : String) :
    (View.mk (.cell a) c).lookUp? σ key = (d.lookUp? c key).map (σ.rewrap c) := by
  have hget : ∀ k, σ.get? (.cell a) k = d.get? k := fun k => by simp [get?, hd, Mapping.get?]
  have hcomparison : σ.comparison? (.cell a) = some d.comparison := by
    simp [comparison?, hd, Mapping.comparison?]
  have hfound : (if σ.comparison? (.cell a) = some c then σ.get? (.cell a) key
      else (σ.resolveKey? (.cell a) c key).bind fun stored => σ.get? (.cell a) stored) =
      d.lookUp? c key := by
    rw [hcomparison, resolveKey?_of_shows hd .self, Dictionary.lookUp?, funext hget]
    split
    · rename_i hsame
      rw [d.get?_eq_bind_resolveKey? key, Option.some.inj hsame]
    · rfl
  exact congrArg (Option.map (σ.rewrap c)) hfound

theorem comparison?_setMapping {m : Mapping} (h : m.comparison? = (σ.mapping a).comparison?)
    (ref : MapRef) : (σ.setMapping a m).comparison? ref = σ.comparison? ref := by
  cases ref with
  | view tag inner c => rfl
  | cell b =>
    by_cases hab : a = b
    · subst hab
      by_cases hlt : a < σ.mappings.size
      · rw [comparison?, mapping_setMapping_self hlt, h, comparison?]
      · rw [comparison?, mapping, setMapping, Array.setIfInBounds_eq_of_size_le (by omega)]
        rfl
    · rw [comparison?, mapping_setMapping_of_ne hab, comparison?]

theorem rewrap_setMapping {m : Mapping} (h : m.comparison? = (σ.mapping a).comparison?)
    (c : KeyComparison) : (σ.setMapping a m).rewrap c = σ.rewrap c := by
  funext v
  cases v with
  | map nested => rw [rewrap, comparison?_setMapping h, rewrap]
  | _ => rfl

theorem rewrap_of_map?_eq_none {v : Value} (h : v.map? = none) (c : KeyComparison) :
    σ.rewrap c v = v := by
  cases v with
  | map nested => exact absurd h (Option.some_ne_none nested)
  | _ => rfl

/-- A write through a view of a writable dictionary is a put under the key that the view finds, or
else under the key as it is. -/
theorem insert_view (hd : σ.mapping a = .dictionary d) (hwritable : d.readOnly = false)
    (c : KeyComparison) (key : String) (v : Value) :
    σ.insert (View.mk (.cell a) c).ref key v =
      .ok (σ.setMapping a (.dictionary (d.put ((d.resolveKey? c key).getD key) v))) := by
  have hkey : σ.insert (View.mk (.cell a) c).ref key v =
      σ.insert (.cell a) ((d.resolveKey? c key).getD key) v := by
    rw [View.ref, insert, put, resolveKey?_of_shows hd .self]
    rfl
  rw [hkey, insert_dictionary hd, Dictionary.insert_eq, hwritable]
  rfl

theorem lookUp?_setMapping_put (ha : a < σ.mappings.size) (hd : σ.mapping a = .dictionary d)
    (c : KeyComparison) (stored : String) (v : Value) (key : String) :
    (View.mk (.cell a) c).lookUp? (σ.setMapping a (.dictionary (d.put stored v))) key =
      ((d.put stored v).lookUp? c key).map (σ.rewrap c) := by
  have hdeclared : (Mapping.dictionary (d.put stored v)).comparison? =
      (σ.mapping a).comparison? := by
    rw [hd]
    exact congrArg some (Dictionary.comparison_put d stored v)
  rw [lookUp?_cell (mapping_setMapping_self ha), rewrap_setMapping hdeclared]

/-- **Writes obey the view's own comparison, but for keys that the dictionary conflates.** Through a
view of either sensitivity over a writable dictionary every write of a value other than a mapping
succeeds. The view then finds the value under the key, and what it found before under all keys that
do not match it, exactly if the dictionary does not take the key for another spelling of a stored
one that the view tells apart from it. -/
theorem insert_rewrites_iff (ha : a < σ.mappings.size) (hd : σ.mapping a = .dictionary d)
    (hwritable : d.readOnly = false) (sensitive : Bool) (key : String) {v : Value}
    (hv : v.map? = none) :
    let view := σ.wrap (.cell a) (some sensitive)
    ∃ after, σ.insert view.ref key v = .ok after ∧
      (Rewrites view.comparison (view.lookUp? σ) (view.lookUp? after) key v ↔
        ¬ d.Conflates view.comparison key) := by
  intro view
  have hbefore : ∀ k, view.lookUp? σ k = (d.lookUp? view.comparison k).map (σ.rewrap _) :=
    lookUp?_cell hd view.comparison
  let stored := (d.resolveKey? view.comparison key).getD key
  have hafter : ∀ k, view.lookUp? (σ.setMapping a (.dictionary (d.put stored v))) k =
      ((d.put stored v).lookUp? view.comparison k).map (σ.rewrap _) :=
    lookUp?_setMapping_put ha hd view.comparison stored v
  refine ⟨_, insert_view hd hwritable view.comparison key v, fun h hconflates => ?_, fun h => ?_⟩
  · have hstored : stored = key := by
      simp only [stored, (Dictionary.conflates_iff.1 hconflates).1, Option.getD_none]
    have hwritten := h.written
    rw [hafter, hstored, Dictionary.lookUp?_put_of_conflates hconflates] at hwritten
    cases hwritten
  · have hput := Dictionary.rewrites_put h v
    refine ⟨?_, fun other hother => ?_⟩
    · rw [hafter, hput.written, Option.map_some, rewrap_of_map?_eq_none hv]
    · rw [hafter, hput.others other hother, hbefore]

/-- A third spelling is written through a view that ignores case over a dictionary that does not. -/
theorem insert_rewrites_iff_colliding :
    let d := Dictionary.ofEntries .ordinal [("Id", .int 1), ("id", .int 2)]
    let σ := (Store.empty.addMapping (.dictionary d)).2
    let view := σ.wrap (.cell 0) (some false)
    0 < σ.mappings.size ∧ σ.mapping 0 = .dictionary d ∧ d.readOnly = false ∧
      (Value.int 3).map? = none ∧
      ∃ after, σ.insert view.ref "ID" (.int 3) = .ok after ∧
        (Rewrites view.comparison (view.lookUp? σ) (view.lookUp? after) "ID" (.int 3) ↔
          ¬ d.Conflates view.comparison "ID") := by
  intro d σ view
  have ha : 0 < σ.mappings.size := Nat.one_pos
  have hd : σ.mapping 0 = .dictionary d := rfl
  have hwritable : d.readOnly = false := rfl
  exact ⟨ha, hd, hwritable, rfl, insert_rewrites_iff ha hd hwritable false "ID" rfl⟩

/-- Through a view that distinguishes case, over a dictionary that does not, `id` is written where
`Id` is stored: the write succeeds, the value replaces that of `Id`, and `id` is not found. -/
theorem insert_overwrites_other_spelling :
    let d := Dictionary.ofEntries .ignoreCase [("Id", .int 1)]
    let σ := (Store.empty.addMapping (.dictionary d)).2
    let view := σ.wrap (.cell 0) (some true)
    let after := σ.setMapping 0 (.dictionary (d.put "id" (.int 2)))
    σ.insert view.ref "id" (.int 2) = .ok after ∧ view.lookUp? after "id" = none ∧
      view.comparison.keysMatch "id" "Id" = false ∧ view.lookUp? σ "Id" = some (.int 1) ∧
      view.lookUp? after "Id" = some (.int 2) ∧
      ¬ Rewrites view.comparison (view.lookUp? σ) (view.lookUp? after) "id" (.int 2) :=
  ⟨insert_view rfl rfl .ordinal "id" (.int 2), rfl, rfl, rfl, rfl,
    fun h => Option.some_ne_none _ h.written.symm⟩

end Store

end DuckTyping
