import DuckTyping.Proofs.DictionaryEntries
import DuckTyping.Store.Sensitivity

set_option autoImplicit false

/-!
# Stacks of views

Views may be wrapped around views. Over a dictionary the outermost one decides: it finds a key that
is stored literally, else, if it ignores case, the first stored key that matches, whatever the views
below it and the dictionary itself compare. Where it leaves a look-up to the mapping behind it, that
mapping finds the same entry.
-/

namespace DuckTyping

/-- The second reference is to the first mapping, perhaps through views. -/
inductive MapRef.Shows (base : MapRef) : MapRef → Prop
  | self : Shows base base
  | through {m : MapRef} (tag : Option Nat) (c : KeyComparison) (h : Shows base m) :
      Shows base (.view tag m c)

/-- The second value is the first; if that is a mapping, it may be seen through views. -/
inductive Value.SeenAs : Value → Value → Prop
  | same (v : Value) : SeenAs v v
  | map {m n : MapRef} (h : m.Shows n) : SeenAs (.map m) (.map n)

/-- The stored key that a view with this comparison finds in a dictionary: the key itself if it is
stored, else, if the view ignores case, the first that is equal ignoring case. -/
def Dictionary.resolveKey? (d : Dictionary) (c : KeyComparison) (key : String) : Option String :=
  if key ∈ d.keys then some key
  else if c.isCaseSensitive then none
  else d.keys.find? fun stored => KeyComparison.ignoreCase.keysMatch stored key

namespace Dictionary

theorem resolveKey?_of_mem {d : Dictionary} {key : String} (h : key ∈ d.keys)
    (c : KeyComparison) : d.resolveKey? c key = some key :=
  if_pos h

theorem mem_keys_of_resolveKey? {d : Dictionary} {c : KeyComparison} {key stored : String}
    (h : d.resolveKey? c key = some stored) : stored ∈ d.keys := by
  unfold resolveKey? at h
  split at h
  · rename_i hmem
    exact Option.some.inj h ▸ hmem
  · split at h
    · cases h
    · exact List.mem_of_find?_eq_some h

theorem keysMatch_of_resolveKey? {d : Dictionary} {c : KeyComparison} {key stored : String}
    (h : d.resolveKey? c key = some stored) : c.keysMatch stored key = true := by
  unfold resolveKey? at h
  split at h
  · rw [← Option.some.inj h]
    exact KeyComparison.keysMatch_self c key
  · cases c with
    | ordinal => cases h
    | ignoreCase =>
      have hmatch := List.find?_some h
      exact hmatch

theorem isSome_resolveKey?_iff {d : Dictionary} {c : KeyComparison} {key : String} :
    (d.resolveKey? c key).isSome = true ↔ ∃ stored ∈ d.keys, c.keysMatch stored key = true := by
  constructor
  · intro h
    obtain ⟨stored, hstored⟩ := Option.isSome_iff_exists.1 h
    exact ⟨stored, mem_keys_of_resolveKey? hstored, keysMatch_of_resolveKey? hstored⟩
  · rintro ⟨stored, hmem, hmatch⟩
    unfold resolveKey?
    split
    · rfl
    · rename_i habsent
      cases c with
      | ordinal =>
        have hkey : stored = key := KeyComparison.keysMatch_iff.1 hmatch
        exact absurd (hkey ▸ hmem) habsent
      | ignoreCase => exact List.isSome_find?.trans (List.any_eq_true.2 ⟨stored, hmem, hmatch⟩)

/-- Under its own comparison a dictionary answers a key as it answers the stored key. -/
theorem get?_eq_bind_resolveKey? (d : Dictionary) (key : String) :
    d.get? key = (d.resolveKey? d.comparison key).bind d.get? := by
  unfold resolveKey?
  split
  · rfl
  · rename_i hmem
    cases hc : d.comparison with
    | ordinal =>
      have hnone : Entries.find? .ordinal d.entries.toList key = none := by
        refine List.find?_eq_none.2 fun e he hmatch => hmem ?_
        have hkey : e.1 = key := KeyComparison.keysMatch_iff.1 hmatch
        exact List.mem_map.2 ⟨e, he, hkey⟩
      rw [get?_eq_find?, hc, hnone]
      rfl
    | ignoreCase =>
      have hfind : d.keys.find? (fun stored => KeyComparison.ignoreCase.keysMatch stored key) =
          (Entries.find? d.comparison d.entries.toList key).map (·.1) := by
        rw [hc, keys, List.find?_map]
        rfl
      rw [hfind, get?_eq_find?]
      cases he : Entries.find? d.comparison d.entries.toList key with
      | none => rfl
      | some e => exact (get?_of_mem (List.mem_of_find?_eq_some he)).symm

end Dictionary

namespace Store

variable {σ : Store} {a : Nat} {d : Dictionary} {m : MapRef}

/-! ## Keys through views -/

theorem keys_of_shows (hd : σ.mapping a = .dictionary d) (h : (MapRef.cell a).Shows m) :
    σ.keys m = d.keys := by
  induction h with
  | self => simp [keys, hd, Mapping.keys]
  | through tag c _ ih => exact ih

theorem size_of_shows (hd : σ.mapping a = .dictionary d) (h : (MapRef.cell a).Shows m) :
    σ.size m = d.size := by
  induction h with
  | self => simp [size, hd, Mapping.size]
  | through tag c _ ih => exact ih

/-- Every mapping finds the first of its keys that matches. -/
theorem findKey?_eq_find?_keys (σ : Store) (m : MapRef) (key : String) (c : KeyComparison) :
    σ.findKey? m key c = (σ.keys m).find? fun stored => c.keysMatch stored key := by
  induction m with
  | cell a =>
    simp only [findKey?, keys]
    cases σ.mapping a with
    | dictionary d => exact d.findKey?_eq_find? key c
    | foreign f => rfl
  | view tag inner below ih => exact ih

theorem findKey?_of_shows (hd : σ.mapping a = .dictionary d) (h : (MapRef.cell a).Shows m)
    (key : String) (c : KeyComparison) :
    σ.findKey? m key c = d.keys.find? fun stored => c.keysMatch stored key := by
  rw [findKey?_eq_find?_keys, keys_of_shows hd h]

theorem find?_ordinal (keys : List String) (key : String) :
    (keys.find? fun stored => KeyComparison.ordinal.keysMatch stored key) =
      if key ∈ keys then some key else none := by
  split
  · rename_i hmem
    cases hfind : keys.find? fun stored => KeyComparison.ordinal.keysMatch stored key with
    | none =>
      have hno := List.find?_eq_none.1 hfind key hmem
      simp at hno
    | some stored =>
      have hmatch := List.find?_some hfind
      have hkey : stored = key := KeyComparison.keysMatch_iff.1 hmatch
      rw [hkey]
  · rename_i hmem
    refine List.find?_eq_none.2 fun stored hstored hmatch => hmem ?_
    have hkey : stored = key := KeyComparison.keysMatch_iff.1 hmatch
    exact hkey ▸ hstored

/-- A view resolves keys as its own comparison asks, whatever lies below it. -/
theorem resolveKey?_of_shows (hd : σ.mapping a = .dictionary d) (h : (MapRef.cell a).Shows m)
    (c : KeyComparison) (key : String) : σ.resolveKey? m c key = d.resolveKey? c key := by
  unfold resolveKey? Dictionary.resolveKey?
  rw [findKey?_of_shows hd h, findKey?_of_shows hd h, find?_ordinal]
  by_cases hmem : key ∈ d.keys
  · simp [hmem]
  · rw [if_neg hmem, if_neg hmem]
    cases c <;> rfl

/-! ## Values through views -/

theorem seenAs_rewrap {v w : Value} (h : v.SeenAs w) (σ : Store) (c : KeyComparison) :
    v.SeenAs (σ.rewrap c w) := by
  have hmap : ∀ {m n : MapRef}, m.Shows n → (Value.map m).SeenAs (σ.rewrap c (.map n)) := by
    intro m n hshows
    simp only [rewrap]
    split
    · exact .map hshows
    · exact .map (.through none c hshows)
  cases h with
  | same v =>
    cases v with
    | map m => exact hmap .self
    | _ => exact .same _
  | map hshows => exact hmap hshows

theorem rel_map_right {α β γ : Type} {R : α → β → Prop} {S : α → γ → Prop} {f : β → γ}
    {x : Option α} {y : Option β} (h : Option.Rel R x y) (hf : ∀ a b, R a b → S a (f b)) :
    Option.Rel S x (y.map f) := by
  cases h with
  | none => exact .none
  | some hab => exact .some (hf _ _ hab)

/-- Whatever the comparison of a reference to the dictionary, through views or not, it looks up the
value that is stored under the key that this comparison finds. -/
theorem get?_of_shows (hd : σ.mapping a = .dictionary d) (h : (MapRef.cell a).Shows m) :
    ∃ c, σ.comparison? m = some c ∧ ∀ key : String,
      Option.Rel Value.SeenAs ((d.resolveKey? c key).bind d.get?) (σ.get? m key) := by
  induction h with
  | self =>
    refine ⟨d.comparison, by simp [comparison?, hd, Mapping.comparison?], fun key => ?_⟩
    have hget : σ.get? (.cell a) key = d.get? key := by simp [get?, hd, Mapping.get?]
    rw [hget, d.get?_eq_bind_resolveKey? key]
    cases (d.resolveKey? d.comparison key).bind d.get? with
    | none => exact .none
    | some v => exact .some (.same v)
  | @through inner tag c hinner ih =>
    obtain ⟨below, hbelow, hget⟩ := ih
    refine ⟨c, rfl, fun key => ?_⟩
    have hview : σ.get? (.view tag inner c) key =
        (if σ.comparison? inner = some c then σ.get? inner key
          else (σ.resolveKey? inner c key).bind fun stored => σ.get? inner stored).map
          (σ.rewrap c) := rfl
    -- what the view finds before it passes it on
    have hfound : Option.Rel Value.SeenAs ((d.resolveKey? c key).bind d.get?)
        (if σ.comparison? inner = some c then σ.get? inner key
          else (σ.resolveKey? inner c key).bind fun stored => σ.get? inner stored) := by
      rw [hbelow, resolveKey?_of_shows hd hinner]
      split
      · rename_i hsame
        rw [← Option.some.inj hsame]
        exact hget key
      · cases hstored : d.resolveKey? c key with
        | none => exact .none
        | some stored =>
          have hkey := hget stored
          rw [Dictionary.resolveKey?_of_mem (Dictionary.mem_keys_of_resolveKey? hstored)] at hkey
          exact hkey
    rw [hview]
    exact rel_map_right hfound fun _ _ hseen => seenAs_rewrap hseen σ c

theorem forall₂_entries {es : List (String × Value)} {lookUp : String → Option Value}
    (h : ∀ e ∈ es, Option.Rel Value.SeenAs (some e.2) (lookUp e.1)) :
    List.Forall₂ (fun e seen => e.1 = seen.1 ∧ e.2.SeenAs seen.2) es
      ((es.map (·.1)).filterMap fun key => (lookUp key).map fun v => (key, v)) := by
  induction es with
  | nil => exact .nil
  | cons e rest ih =>
    have hrest := ih fun other hother => h other (List.mem_cons_of_mem _ hother)
    have hhead := h e List.mem_cons_self
    rw [List.map_cons, List.filterMap_cons]
    generalize lookUp e.1 = found at hhead
    cases hhead with
    | some hseen => exact .cons ⟨rfl, hseen⟩ hrest

end Store

/-- A view shows the entries of a dictionary, and finds them as its own comparison asks. -/
structure View.ShowsEntries (σ : Store) (v : View) (d : Dictionary) : Prop where
  resolves : ∀ key : String, v.resolveKey? σ key = d.resolveKey? v.comparison key
  contains : ∀ key : String, σ.contains v.ref key = (v.resolveKey? σ key).isSome
  finds : ∀ key : String, (v.lookUp? σ key).isSome = (v.resolveKey? σ key).isSome
  value : ∀ key stored : String, v.resolveKey? σ key = some stored →
    ∃ x w, (stored, x) ∈ d.entries.toList ∧ v.lookUp? σ key = some w ∧ x.SeenAs w
  keys : σ.keys v.ref = d.keys
  size : σ.size v.ref = d.size
  entries : List.Forall₂ (fun e seen => e.1 = seen.1 ∧ e.2.SeenAs seen.2) d.entries.toList
    (σ.entries v.ref)

namespace Store

variable {σ : Store} {a : Nat} {d : Dictionary} {inner : MapRef}

theorem lookUp?_of_shows (hd : σ.mapping a = .dictionary d) (h : (MapRef.cell a).Shows inner)
    (c : KeyComparison) (key : String) :
    Option.Rel Value.SeenAs ((d.resolveKey? c key).bind d.get?)
      ((View.mk inner c).lookUp? σ key) := by
  obtain ⟨below, hbelow, hget⟩ := get?_of_shows hd (.through none c h)
  have hsame : c = below := Option.some.inj hbelow
  subst hsame
  exact hget key

theorem lookUp?_eq_none (hd : σ.mapping a = .dictionary d) (h : (MapRef.cell a).Shows inner)
    {c : KeyComparison} {key : String} (hkey : d.resolveKey? c key = none) :
    (View.mk inner c).lookUp? σ key = none := by
  have hrel := lookUp?_of_shows hd h c key
  rw [hkey] at hrel
  generalize (View.mk inner c).lookUp? σ key = found at hrel
  cases hrel
  rfl

/-- Where a key resolves, the value is looked up that is stored under the key it resolves to. -/
theorem lookUp?_of_resolveKey? (hd : σ.mapping a = .dictionary d)
    (h : (MapRef.cell a).Shows inner) {c : KeyComparison} {key stored : String}
    (hkey : d.resolveKey? c key = some stored) :
    ∃ x w, (stored, x) ∈ d.entries.toList ∧ (View.mk inner c).lookUp? σ key = some w ∧
      x.SeenAs w := by
  obtain ⟨e, he, hfst⟩ := List.mem_map.1 (Dictionary.mem_keys_of_resolveKey? hkey)
  subst hfst
  have hrel := lookUp?_of_shows hd h c key
  rw [hkey, Option.bind_some, Dictionary.get?_of_mem he] at hrel
  generalize (View.mk inner c).lookUp? σ key = found at hrel ⊢
  cases hrel with
  | some hseen => exact ⟨e.2, _, he, rfl, hseen⟩

/-- **The outermost view decides.** A view with a sensitivity of its choice, wrapped around any
stack of views over a dictionary, has the comparison of this sensitivity, and finds keys as it asks:
a stored key literally, else, if it ignores case, the first one that is equal ignoring case. It has
a key exactly if it finds one, and then looks up the value that is stored under it; it lists the
entries of the dictionary, each with its own value. -/
theorem outermost_view_decides (hd : σ.mapping a = .dictionary d)
    (h : (MapRef.cell a).Shows inner) (sensitive : Bool) :
    let view := σ.wrap inner (some sensitive)
    view.comparison = .ofCaseSensitive sensitive ∧ view.ShowsEntries σ d := by
  intro view
  have hresolves : ∀ key, view.resolveKey? σ key =
      d.resolveKey? (.ofCaseSensitive sensitive) key :=
    fun key => resolveKey?_of_shows hd h (.ofCaseSensitive sensitive) key
  have houter := h.through none (.ofCaseSensitive sensitive)
  refine ⟨rfl, hresolves, fun key => rfl, fun key => ?_, fun key stored hkey => ?_,
    keys_of_shows hd houter, size_of_shows hd houter, ?_⟩
  · rw [hresolves key]
    cases hkey : d.resolveKey? (.ofCaseSensitive sensitive) key with
    | none =>
      have hnone := lookUp?_eq_none hd h hkey
      exact congrArg Option.isSome hnone
    | some stored =>
      obtain ⟨x, w, _, hsome, _⟩ := lookUp?_of_resolveKey? hd h hkey
      exact congrArg Option.isSome hsome
  · rw [hresolves key] at hkey
    exact lookUp?_of_resolveKey? hd h hkey
  · have hentries : σ.entries view.ref =
        (d.entries.toList.map (·.1)).filterMap fun key =>
          (view.lookUp? σ key).map fun v => (key, v) := by
      have hkeys : σ.keys inner = d.entries.toList.map (·.1) := keys_of_shows hd h
      rw [← hkeys]
      rfl
    rw [hentries]
    refine forall₂_entries fun e he => ?_
    have hrel := lookUp?_of_shows hd h (.ofCaseSensitive sensitive) e.1
    rw [Dictionary.resolveKey?_of_mem (List.mem_map.2 ⟨e, he, rfl⟩), Option.bind_some,
      Dictionary.get?_of_mem he] at hrel
    exact hrel

/-- Two keys that differ in case alone, under three views of both sensitivities. -/
theorem outermost_view_decides_colliding :
    let d := Dictionary.ofEntries .ordinal [("Id", .bool true), ("id", .map (.cell 0))]
    let σ := (Store.empty.addMapping (.dictionary d)).2
    let once := (σ.wrap (.cell 0) (some false)).ref
    let twice := (σ.wrap once (some true)).ref
    σ.mapping 0 = .dictionary d ∧ (MapRef.cell 0).Shows twice ∧
      (σ.wrap twice (some false)).comparison = .ofCaseSensitive false ∧
      (σ.wrap twice (some false)).ShowsEntries σ d := by
  intro d σ once twice
  have hd : σ.mapping 0 = .dictionary d := rfl
  have htwice : (MapRef.cell 0).Shows twice := .through none _ (.through none _ .self)
  exact ⟨hd, htwice, outermost_view_decides hd htwice false⟩

end Store

end DuckTyping
