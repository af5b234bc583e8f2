import DuckTyping.Mapping.Dictionary
import Mathlib.Data.List.Induction
import Mathlib.Data.List.Nodup

set_option autoImplicit false

/-!
# Lists of entries under a comparison of keys

What a dictionary stands for: a list of entries in the order of insertion, searched from the front
and compared key by key, without an index. The operations here are the plain ones; that a dictionary
agrees with them is shown for each of its operations in turn.
-/

namespace DuckTyping

namespace Entries

/-- The first entry whose key matches. -/
def find? (c : KeyComparison) (es : List (String × Value)) (key : String) :
    Option (String × Value) :=
  es.find? fun e => c.keysMatch e.1 key

/-- Give the matching entry another value, or append an entry where none matches. -/
def put (c : KeyComparison) (es : List (String × Value)) (key : String) (v : Value) :
    List (String × Value) :=
  if es.any fun e => c.keysMatch e.1 key then
    es.map fun e => if c.keysMatch e.1 key then (e.1, v) else e
  else es ++ [(key, v)]

/-- The entries whose keys do not match. -/
def remove (c : KeyComparison) (es : List (String × Value)) (key : String) :
    List (String × Value) :=
  es.filter fun e => !c.keysMatch e.1 key

/-- No two entries have keys that match. -/
def Distinct (c : KeyComparison) (es : List (String × Value)) : Prop :=
  (es.map fun e => c.fold e.1).Nodup

/-- The entries put one after the other, starting from none. -/
def collect (c : KeyComparison) (es : List (String × Value)) : List (String × Value) :=
  es.foldl (fun acc e => put c acc e.1 e.2) []

/-- The last entry whose key matches. -/
def last? (c : KeyComparison) (es : List (String × Value)) (key : String) :
    Option (String × Value) :=
  find? c es.reverse key

variable {c : KeyComparison} {es : List (String × Value)} {key : String}

theorem keysMatch_of_find?_eq_some {e : String × Value} (h : find? c es key = some e) :
    c.keysMatch e.1 key = true := by
  have hp := List.find?_some h
  exact hp

theorem find?_eq_some_iff (hd : Distinct c es) {e : String × Value} :
    find? c es key = some e ↔ e ∈ es ∧ c.keysMatch e.1 key = true := by
  constructor
  · intro h
    exact ⟨List.mem_of_find?_eq_some h, keysMatch_of_find?_eq_some h⟩
  · rintro ⟨hmem, hmatch⟩
    cases hfind : find? c es key with
    | none => exact absurd hmatch (List.find?_eq_none.1 hfind e hmem)
    | some other =>
      have hother : c.fold other.1 = c.fold e.1 := by
        have hkey := keysMatch_of_find?_eq_some hfind
        rw [KeyComparison.keysMatch_iff.1 hkey, KeyComparison.keysMatch_iff.1 hmatch]
      rw [List.inj_on_of_nodup_map hd (List.mem_of_find?_eq_some hfind) hmem hother]

theorem isSome_find? : (find? c es key).isSome = es.any fun e => c.keysMatch e.1 key :=
  List.isSome_find?

theorem find?_of_mem (hd : Distinct c es) {e : String × Value} (he : e ∈ es) :
    find? c es e.1 = some e :=
  (find?_eq_some_iff hd).2 ⟨he, KeyComparison.keysMatch_self c e.1⟩

/-- Where matches under one comparison are matches under another, under which the entries are
distinct, a search under the first can be left to the second. -/
theorem find?_eq_filter_of_imp (hd : Distinct c es) {finer : KeyComparison}
    (h : ∀ stored, finer.keysMatch stored key = true → c.keysMatch stored key = true) :
    find? finer es key = (find? c es key).filter fun e => finer.keysMatch e.1 key := by
  refine Option.ext fun e => ?_
  rw [Option.filter_eq_some_iff]
  constructor
  · intro he
    have hmatch := keysMatch_of_find?_eq_some he
    exact ⟨(find?_eq_some_iff hd).2 ⟨List.mem_of_find?_eq_some he, h _ hmatch⟩, hmatch⟩
  · rintro ⟨he, hmatch⟩
    cases hfind : find? finer es key with
    | none => exact absurd hmatch (List.find?_eq_none.1 hfind e (List.mem_of_find?_eq_some he))
    | some other =>
      have hother := (find?_eq_some_iff hd).2
        ⟨List.mem_of_find?_eq_some hfind, h _ (keysMatch_of_find?_eq_some hfind)⟩
      rw [← he, hother]

/-! ## Putting entries -/

/-- What is found after a put: the value that was put under the keys that match, and what was found
before under all others. -/
theorem find?_put (k : String) (v : Value) :
    (find? c (put c es k v) key).map (·.2) =
      if c.keysMatch k key then some v else (find? c es key).map (·.2) := by
  have hmatch : ∀ e : String × Value, c.keysMatch k key = true →
      c.keysMatch e.1 k = c.keysMatch e.1 key := fun e hk =>
    KeyComparison.keysMatch_congr_right hk e.1
  unfold put
  split
  · rename_i hany
    -- the keys stay as they are, so the same entry is found as before
    have hsame : (fun e : String × Value => c.keysMatch e.1 key) ∘
        (fun e => if c.keysMatch e.1 k then (e.1, v) else e) = fun e => c.keysMatch e.1 key := by
      funext e
      simp only [Function.comp_apply]
      split <;> rfl
    unfold find?
    rw [List.find?_map, hsame, Option.map_map]
    by_cases hk : c.keysMatch k key = true
    · obtain ⟨e, he, hek⟩ := List.any_eq_true.1 hany
      obtain ⟨found, hfound⟩ : ∃ found, es.find? (fun e => c.keysMatch e.1 key) = some found := by
        rw [← Option.isSome_iff_exists, List.isSome_find?, List.any_eq_true]
        exact ⟨e, he, hmatch e hk ▸ hek⟩
      have hkey : c.keysMatch found.1 k = true := by
        rw [hmatch found hk]
        exact keysMatch_of_find?_eq_some hfound
      simp [hfound, hkey, hk]
    · rw [if_neg hk]
      refine Option.map_congr fun e he => ?_
      have hkey : c.keysMatch e.1 key = true := keysMatch_of_find?_eq_some he
      have hne : ¬ c.keysMatch e.1 k = true := by
        intro h
        rw [KeyComparison.keysMatch_iff] at hk hkey h
        exact hk (h.symm.trans hkey)
      simp [hne]
  · rename_i hnone
    unfold find?
    rw [List.find?_append]
    by_cases hk : c.keysMatch k key = true
    · have hfind : es.find? (fun e => c.keysMatch e.1 key) = none := by
        refine List.find?_eq_none.2 fun e he hek => hnone ?_
        exact List.any_eq_true.2 ⟨e, he, (hmatch e hk).trans hek⟩
      simp [hfind, hk]
    · simp [hk]

theorem map_fst_put (k : String) (v : Value) :
    (put c es k v).map (·.1) =
      if (es.map (·.1)).any (c.keysMatch k) then es.map (·.1) else es.map (·.1) ++ [k] := by
  have hany : (es.map (·.1)).any (c.keysMatch k) = es.any fun e => c.keysMatch e.1 k := by
    rw [List.any_map]
    congr 1
    funext e
    exact KeyComparison.keysMatch_comm c k e.1
  rw [hany]
  unfold put
  split
  · rw [List.map_map]
    refine List.map_congr_left fun e _ => ?_
    simp only [Function.comp_apply]
    split <;> rfl
  · simp

/-! ## Collecting entries -/

theorem collect_concat (e : String × Value) :
    collect c (es ++ [e]) = put c (collect c es) e.1 e.2 := by
  simp [collect]

theorem eraseDupsBy_loop_concat {α : Type} (r : α → α → Bool) (a : α) (l seen : List α) :
    List.eraseDupsBy.loop r (l ++ [a]) seen =
      if (List.eraseDupsBy.loop r l seen).any (r a) then List.eraseDupsBy.loop r l seen
      else List.eraseDupsBy.loop r l seen ++ [a] := by
  induction l generalizing seen with
  | nil =>
    cases h : seen.any (r a) <;> simp [List.eraseDupsBy.loop, h]
  | cons b rest ih =>
    cases h : seen.any (r b)
    · simp only [List.cons_append, List.eraseDupsBy.loop, h]
      exact ih (b :: seen)
    · simp only [List.cons_append, List.eraseDupsBy.loop, h]
      exact ih seen

/-- Collecting keeps of each class of matching keys the spelling that came first, in order. -/
theorem map_fst_collect : (collect c es).map (·.1) = (es.map (·.1)).eraseDupsBy c.keysMatch := by
  induction es using List.reverseRecOn with
  | nil => rfl
  | append_singleton es e ih =>
    rw [collect_concat, map_fst_put, ih, List.map_append, List.map_cons, List.map_nil]
    unfold List.eraseDupsBy
    rw [eraseDupsBy_loop_concat]

/-- Collecting keeps of each class of matching keys the value that came last. -/
theorem find?_collect (key : String) :
    (find? c (collect c es) key).map (·.2) = (last? c es key).map (·.2) := by
  induction es using List.reverseRecOn with
  | nil => rfl
  | append_singleton es e ih =>
    rw [collect_concat, find?_put, ih]
    unfold last? find?
    rw [List.reverse_append, List.reverse_cons, List.reverse_nil, List.nil_append,
      List.singleton_append, List.find?_cons]
    split <;> simp_all

end Entries

end DuckTyping
