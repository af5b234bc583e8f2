import DuckTyping.Proofs.ViewStack

set_option autoImplicit false

/-!
# Following keys through views

From a view one may go on, key after key, through the mappings that are found. A mapping read
through a view declares the comparison of the view: it is handed out as it is if it declares it
already, and otherwise seen through a view. A dictionary that is handed out as it is knows nothing
of the view it was found through, so what is read from it next is whatever it stores. That is the
one way in which a path can come to a mapping with the other comparison.
-/

namespace DuckTyping

namespace Store

/-- Every mapping of the store is a dictionary. -/
def HoldsDictionaries (σ : Store) : Prop := ∀ m ∈ σ.mappings, ∃ d, m = .dictionary d

/-- The mapping shows the dictionary, perhaps through views. -/
def Underlies (σ : Store) (d : Dictionary) (m : MapRef) : Prop :=
  ∃ a, σ.mapping a = .dictionary d ∧ (MapRef.cell a).Shows m

/-- Looking up the keys one after another, each in the mapping found before, leads from the first
mapping to the last. -/
inductive Follows (σ : Store) : MapRef → List String → MapRef → Prop
  | here (m : MapRef) : Follows σ m [] m
  | step {m next last : MapRef} {key : String} {keys : List String}
      (h : σ.get? m key = some (.map next)) (rest : Follows σ next keys last) :
      Follows σ m (key :: keys) last

/-- The mapping declares the comparison, and answers exactly the keys that match one of the
dictionary's under it. -/
structure AnswersBy (σ : Store) (m : MapRef) (d : Dictionary) (c : KeyComparison) : Prop where
  declares : σ.comparison? m = some c
  answers : ∀ key, (σ.get? m key).isSome = true ↔ ∃ stored ∈ d.keys, c.keysMatch stored key = true
  contains : ∀ key, σ.contains m key = (σ.get? m key).isSome

/-- On the way, out of a dictionary that declares the comparison itself, a mapping was read that
does not. -/
def Leaves (σ : Store) (c : KeyComparison) (first : MapRef) (keys : List String) (last : MapRef) :
    Prop :=
  ∃ before key after a next, keys = before ++ key :: after ∧
    σ.Follows first before (.cell a) ∧ σ.comparison? (.cell a) = some c ∧
    σ.get? (.cell a) key = some (.map next) ∧ σ.comparison? next ≠ some c ∧
    σ.Follows next after last

variable {σ : Store} {c : KeyComparison}

/-! ## What a mapping answers -/

theorem HoldsDictionaries.exists_mapping (h : σ.HoldsDictionaries) (a : Nat) :
    ∃ d, σ.mapping a = .dictionary d := by
  rw [mapping, Array.getD_eq_getD_getElem?]
  by_cases ha : a < σ.mappings.size
  · rw [Array.getElem?_eq_getElem ha, Option.getD_some]
    exact h _ (Array.getElem_mem ha)
  · rw [Array.getElem?_eq_none (by omega), Option.getD_none]
    exact ⟨default, rfl⟩

theorem HoldsDictionaries.exists_underlies (h : σ.HoldsDictionaries) (m : MapRef) :
    ∃ d, σ.Underlies d m := by
  induction m with
  | cell a =>
    obtain ⟨d, hd⟩ := h.exists_mapping a
    exact ⟨d, a, hd, .self⟩
  | view tag inner c ih =>
    obtain ⟨d, a, hd, hshows⟩ := ih
    exact ⟨d, a, hd, .through tag c hshows⟩

theorem isSome_bind_resolveKey? (d : Dictionary) (c : KeyComparison) (key : String) :
    ((d.resolveKey? c key).bind d.get?).isSome = (d.resolveKey? c key).isSome := by
  cases hstored : d.resolveKey? c key with
  | none => rfl
  | some stored =>
    obtain ⟨e, he, rfl⟩ := List.mem_map.1 (Dictionary.mem_keys_of_resolveKey? hstored)
    rw [Option.bind_some, Dictionary.get?_of_mem he]
    rfl

theorem isSome_eq_of_rel {α β : Type} {R : α → β → Prop} {x : Option α} {y : Option β}
    (h : Option.Rel R x y) : x.isSome = y.isSome := by
  cases h <;> rfl

/-- A mapping that shows a dictionary answers by the comparison that it declares. -/
theorem Underlies.exists_answersBy {d : Dictionary} {m : MapRef} (h : σ.Underlies d m) :
    ∃ c, σ.AnswersBy m d c := by
  obtain ⟨a, hd, hshows⟩ := h
  obtain ⟨c, hdeclares, hget⟩ := get?_of_shows hd hshows
  have hanswer : ∀ key, (σ.get? m key).isSome = (d.resolveKey? c key).isSome := fun key => by
    rw [← isSome_eq_of_rel (hget key), isSome_bind_resolveKey?]
  refine ⟨c, hdeclares, fun key => ?_, fun key => ?_⟩
  · rw [hanswer, Dictionary.isSome_resolveKey?_iff]
  · cases hshows with
    | self =>
      simp only [contains, get?, hd, Mapping.contains, Mapping.get?]
      exact d.contains_eq_isSome_get? key
    | through tag c' hinner =>
      cases hdeclares
      rw [hanswer, ← resolveKey?_of_shows hd hinner]
      rfl

/-! ## Along a path -/

theorem comparison?_of_rewrap {v : Value} {next : MapRef} (h : σ.rewrap c v = .map next) :
    σ.comparison? next = some c := by
  cases v with
  | map nested =>
    rw [rewrap] at h
    split at h
    · rename_i hdeclares
      cases h
      exact hdeclares
    · cases h
      rfl
  | _ => cases h

/-- A mapping that is read through a view declares the comparison of the view. -/
theorem comparison?_of_get?_view {tag : Option Nat} {inner next : MapRef} {key : String}
    (h : σ.get? (.view tag inner c) key = some (.map next)) : σ.comparison? next = some c := by
  rw [get?] at h
  obtain ⟨v, _, hv⟩ := Option.map_eq_some_iff.1 h
  exact comparison?_of_rewrap hv

/-- One key further: the comparison is kept, or left behind in a dictionary that declares it. -/
theorem comparison?_step {m next : MapRef} {key : String} (hm : σ.comparison? m = some c)
    (h : σ.get? m key = some (.map next)) :
    σ.comparison? next = some c ∨ ∃ a, m = .cell a ∧ σ.comparison? next ≠ some c := by
  cases m with
  | cell a => exact (em _).imp_right fun hne => ⟨a, rfl, hne⟩
  | view tag inner c' =>
    cases hm
    exact .inl (comparison?_of_get?_view h)

/-- Along a whole path the comparison is kept, or left behind on the way. -/
theorem Follows.comparison?_or_leaves {m last : MapRef} {keys : List String}
    (h : σ.Follows m keys last) (hm : σ.comparison? m = some c) :
    σ.comparison? last = some c ∨ σ.Leaves c m keys last := by
  induction h with
  | here m => exact .inl hm
  | @step m next last key keys hget hrest ih =>
    rcases comparison?_step hm hget with hnext | ⟨a, rfl, hnext⟩
    · refine (ih hnext).imp_right ?_
      rintro ⟨before, key', after, a, other, rfl, hbefore, hcell, hread, hother, hafter⟩
      exact ⟨key :: before, key', after, a, other, rfl, .step hget hbefore, hcell, hread, hother,
        hafter⟩
    · exact .inr ⟨[], key, keys, a, next, rfl, .here _, hm, hget, hnext, hrest⟩

/-- **Sensitivity along a path.** In a store of dictionaries, whatever mapping is met when keys are
followed from a view with a chosen sensitivity: it shows a dictionary, declares a comparison, and
answers exactly the keys that match one of the dictionary's under it. That comparison is the one
chosen, unless on the way, out of a dictionary that declares it itself, a mapping was read that does
not. -/
theorem exists_answersBy_of_follows (hσ : σ.HoldsDictionaries) (m : MapRef) (sensitive : Bool)
    {keys : List String} {met : MapRef}
    (h : σ.Follows (σ.wrap m (some sensitive)).ref keys met) :
    ∃ d c, σ.Underlies d met ∧ σ.AnswersBy met d c ∧
      (c = .ofCaseSensitive sensitive ∨
        σ.Leaves (.ofCaseSensitive sensitive) (σ.wrap m (some sensitive)).ref keys met) := by
  obtain ⟨d, hd⟩ := hσ.exists_underlies met
  obtain ⟨c, hc⟩ := hd.exists_answersBy
  refine ⟨d, c, hd, hc, (h.comparison?_or_leaves rfl).imp_left fun hmet => ?_⟩
  exact Option.some.inj (hc.declares.symm.trans hmet)

/-- Three dictionaries, one in the other. The one in the middle ignores case. -/
def nestedDictionaries : Store where
  mappings := #[.dictionary (.ofEntries .ordinal [("Id", .int 1)]),
    .dictionary (.ofEntries .ignoreCase [("b", .map (.cell 0))]),
    .dictionary (.ofEntries .ordinal [("a", .map (.cell 1))])]
  objects := #[]
  nextTag := 0

theorem nestedDictionaries_holdsDictionaries : nestedDictionaries.HoldsDictionaries := by
  intro m hm
  simp only [nestedDictionaries, List.mem_toArray, List.mem_cons, List.not_mem_nil, or_false] at hm
  rcases hm with rfl | rfl | rfl <;> exact ⟨_, rfl⟩

theorem nestedDictionaries_follows :
    nestedDictionaries.Follows (nestedDictionaries.wrap (.cell 2) (some false)).ref ["a", "b"]
      (.cell 0) :=
  .step rfl (.step rfl (.here _))

/-- The innermost of three dictionaries is reached from a view that ignores case. -/
theorem exists_answersBy_of_follows_nested :
    let σ := nestedDictionaries
    let start := (σ.wrap (.cell 2) (some false)).ref
    σ.HoldsDictionaries ∧ σ.Follows start ["a", "b"] (.cell 0) ∧
      ∃ d c, σ.Underlies d (.cell 0) ∧ σ.AnswersBy (.cell 0) d c ∧
        (c = .ofCaseSensitive false ∨
          σ.Leaves (.ofCaseSensitive false) start ["a", "b"] (.cell 0)) :=
  ⟨nestedDictionaries_holdsDictionaries, nestedDictionaries_follows,
    exists_answersBy_of_follows nestedDictionaries_holdsDictionaries _ false
      nestedDictionaries_follows⟩

/-- A view that ignores case does not reach below the dictionary in the middle, which ignores case
itself: the innermost one is met as it is and does not answer `ID`, although it stores `Id`. -/
theorem sensitivity_ends_at_plain_dictionary :
    let σ := nestedDictionaries
    let start := (σ.wrap (.cell 2) (some false)).ref
    let c := KeyComparison.ofCaseSensitive false
    σ.HoldsDictionaries ∧
      (¬ ∀ keys met, σ.Follows start keys met → σ.comparison? met = some c) ∧
      ¬ ∀ keys met d, σ.Follows start keys met → σ.Underlies d met →
        ∀ key, (σ.get? met key).isSome = true ↔
          ∃ stored ∈ d.keys, c.keysMatch stored key = true := by
  refine ⟨nestedDictionaries_holdsDictionaries, fun h => ?_, fun h => ?_⟩
  · have hdeclares := h _ _ nestedDictionaries_follows
    cases hdeclares
  · have hanswer := (h _ _ _ nestedDictionaries_follows ⟨0, rfl, .self⟩ "ID").2
      ⟨"Id", by decide, by decide⟩
    cases hanswer

end Store

end DuckTyping
