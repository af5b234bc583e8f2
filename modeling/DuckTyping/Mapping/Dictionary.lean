import DuckTyping.Value.HostError
import Std.Data.TreeMap

set_option autoImplicit false

/-!
# Dictionaries

A dictionary keeps its entries in the order in which their keys were first inserted, and never two
whose keys match under its comparison. An index leads from each folded key to the position of its
entry; that it leads from exactly the folded keys to exactly their positions is part of the type.
-/

namespace DuckTyping

/-- An insertion-ordered mapping with a comparison of keys. -/
structure Dictionary where
  comparison : KeyComparison
  readOnly : Bool
  entries : Array (String × Value)
  index : Std.TreeMap String Nat
  index_iff : ∀ (folded : String) (i : Nat), index[folded]? = some i ↔
    entries[i]?.map (fun e => comparison.fold e.1) = some folded

namespace Dictionary

/-- The writable dictionary without entries. -/
def empty (comparison : KeyComparison) : Dictionary where
  comparison := comparison
  readOnly := false
  entries := #[]
  index := ∅
  index_iff := by simp

instance : Inhabited Dictionary := ⟨empty .ordinal⟩

/-- The position of the entry whose key matches. -/
def position? (d : Dictionary) (key : String) : Option Nat :=
  d.index[d.comparison.fold key]?

/-- A position is found exactly where an entry stands whose key matches. -/
theorem position?_eq_some_iff {d : Dictionary} {key : String} {i : Nat} :
    d.position? key = some i ↔
      ∃ e, d.entries[i]? = some e ∧ d.comparison.keysMatch e.1 key = true := by
  simp [position?, d.index_iff, KeyComparison.keysMatch_iff]

/-- Replace the value at a position; the key keeps its spelling. -/
def replaceAt (d : Dictionary) (i : Nat) (v : Value) : Dictionary :=
  { d with
    entries := d.entries.modify i fun e => (e.1, v)
    index_iff := by
      intro folded j
      rw [d.index_iff, Array.getElem?_modify]
      split
      · simp [Option.map_map, Function.comp_def]
      · rfl }

/-- Append an entry under a key that matches none. -/
def append (d : Dictionary) (key : String) (v : Value) (h : d.position? key = none) :
    Dictionary :=
  { d with
    entries := d.entries.push (key, v)
    index := d.index.insert (d.comparison.fold key) d.entries.size
    index_iff := by
      intro folded i
      have hiff := d.index_iff folded i
      rw [Std.TreeMap.getElem?_insert, Array.getElem?_push]
      simp only [Std.compare_eq_iff_eq]
      by_cases hf : d.comparison.fold key = folded
      · subst hf
        rw [position?] at h
        by_cases hi : i = d.entries.size
        · simp [hi]
        · simp only [h, reduceCtorEq, false_iff] at hiff
          simp [hi, hiff, Ne.symm hi]
      · by_cases hi : i = d.entries.size
        · subst hi
          simp only [hf, ↓reduceIte, Option.map_some, Option.some.injEq, iff_false]
          rw [hiff]
          simp
        · simp [hf, hi, hiff] }

/-- Insert or replace a value, whether or not the dictionary may be written. -/
def put (d : Dictionary) (key : String) (v : Value) : Dictionary :=
  match h : d.position? key with
  | some i => d.replaceAt i v
  | none => d.append key v h

/-- Delete the entry at a position; the entries behind it move up. -/
def deleteAt (d : Dictionary) (folded : String) (i : Nat) (h : d.index[folded]? = some i) :
    Dictionary :=
  { d with
    entries := d.entries.eraseIdxIfInBounds i
    index := (d.index.erase folded).map fun _ j => if i < j then j - 1 else j
    index_iff := by
      intro other j
      have hentry := (d.index_iff folded i).1 h
      have hget : (d.entries.eraseIdxIfInBounds i)[j]? =
          if j < i then d.entries[j]? else d.entries[j + 1]? := by
        rw [← Array.getElem?_toList, Array.toList_eraseIdxIfInBounds, List.getElem?_eraseIdx]
        simp
      rw [hget, Std.TreeMap.getElem?_map, Std.TreeMap.getElem?_erase]
      simp only [Std.compare_eq_iff_eq]
      by_cases hf : folded = other
      · subst hf
        have hunique : ∀ k, d.entries[k]?.map (fun e => d.comparison.fold e.1) = some folded →
            k = i := fun k hk => by
          have := (d.index_iff folded k).2 hk
          rw [h] at this
          exact (Option.some.inj this).symm
        simp only [↓reduceIte, Option.map_none, reduceCtorEq, false_iff]
        split
        · intro hj
          have := hunique j hj
          omega
        · intro hj
          have := hunique (j + 1) hj
          omega
      · have hne : ∀ k, d.index[other]? = some k → k ≠ i := fun k hk hki => by
          subst hki
          have := (d.index_iff other k).1 hk
          rw [hentry] at this
          exact hf (Option.some.inj this)
        simp only [hf, ↓reduceIte, Option.map_eq_some_iff]
        constructor
        · rintro ⟨k, hk, rfl⟩
          have hki := hne k hk
          have hk' := (d.index_iff other k).1 hk
          by_cases hik : i < k
          · have : ¬ k - 1 < i := by omega
            have hk1 : k - 1 + 1 = k := by omega
            simp only [hik, ↓reduceIte, this, hk1]
            simpa using hk'
          · have : k < i := by omega
            simp only [hik, ↓reduceIte, this]
            simpa using hk'
        · split
          · rename_i hji
            rintro ⟨e, he, hfold⟩
            have : ¬ i < j := by omega
            exact ⟨j, (d.index_iff other j).2 (by simp [he, hfold]), by simp [this]⟩
          · rename_i hji
            rintro ⟨e, he, hfold⟩
            exact ⟨j + 1, (d.index_iff other (j + 1)).2 (by simp [he, hfold]), by
              have : i < j + 1 := by omega
              simp [this]⟩ }

/-- A dictionary of these entries. Later entries replace earlier ones whose keys match. -/
def ofEntries (comparison : KeyComparison) (entries : List (String × Value)) : Dictionary :=
  entries.foldl (fun d e => d.put e.1 e.2) (empty comparison)

/-- The same dictionary, closed to writing. -/
def intoReadOnly (d : Dictionary) : Dictionary := { d with readOnly := true }

/-- The number of entries. -/
def size (d : Dictionary) : Nat := d.entries.size

/-- The keys, as they were first spelled, in the order of insertion. -/
def keys (d : Dictionary) : List String := d.entries.toList.map (·.1)

/-- The value under the key that matches. -/
def get? (d : Dictionary) (key : String) : Option Value :=
  (d.position? key).bind fun i => d.entries[i]?.map (·.2)

/-- A key matches. -/
def contains (d : Dictionary) (key : String) : Bool := (d.position? key).isSome

/-- The stored spelling of the first key that matches under `comparison`. The index answers whenever
such a match is also one under the dictionary's own comparison. -/
def findKey? (d : Dictionary) (key : String) (comparison : KeyComparison) : Option String :=
  if comparison = d.comparison ∨ comparison = .ordinal then
    (d.position? key).bind fun i =>
      (d.entries[i]?.map (·.1)).filter fun stored => comparison.keysMatch stored key
  else
    d.keys.find? fun stored => comparison.keysMatch stored key

/-- Writing is refused under this key if the dictionary is read-only. -/
def checkWritable (d : Dictionary) (key : String) : Except HostError Unit :=
  if d.readOnly then .error (.readOnly key) else .ok ()

/-- Insert or replace a value. -/
def insert (d : Dictionary) (key : String) (v : Value) : Except HostError Dictionary :=
  (d.checkWritable key).map fun _ => d.put key v

/-- Remove the entry whose key matches, and return its value. -/
def remove (d : Dictionary) (key : String) : Except HostError (Option Value × Dictionary) :=
  (d.checkWritable key).map fun _ =>
    match h : d.index[d.comparison.fold key]? with
    | some i => (d.entries[i]?.map (·.2), d.deleteAt (d.comparison.fold key) i h)
    | none => (none, d)

/-- The value that was found or generated, and the dictionary that has it. -/
structure FoundOrAdded where
  value : Value
  generated : Bool
  dictionary : Dictionary

/-- The value under the key that matches; only where none does, a value is generated and inserted.
-/
def findOrAdd (d : Dictionary) (key : String) (generate : Unit → Value) :
    Except HostError FoundOrAdded :=
  match d.get? key with
  | some v => .ok ⟨v, false, d⟩
  | none =>
    (d.checkWritable key).map fun _ =>
      let v := generate ()
      ⟨v, true, d.put key v⟩

/-- The diagnostic form of a dictionary. -/
def summary (d : Dictionary) : String :=
  "Dictionary \x7b comparison: " ++ d.comparison.summary ++ ", read_only: " ++
    (if d.readOnly then "true" else "false") ++ ", keys: " ++ Text.quotedList d.keys ++ " \x7d"

end Dictionary

end DuckTyping
