import DuckTyping.Mapping.Mapping
import DuckTyping.Proofs.DictionaryEntries

set_option autoImplicit false

/-!
# Runs of operations on a dictionary

Whatever is done with a dictionary, and in whatever order, it answers like a plain list of entries
that is searched from the front: the listing that it stands for. One operation keeps the two in
step, hence so does a run of operations.

What a dictionary takes from its index, a mapping without one finds out from its keys and its
look-up. Both come to the same, also where a key is asked for under the other comparison.
-/

namespace DuckTyping

/-- What can be done with a dictionary. -/
inductive DictionaryOperation where
  /-- go on with a new dictionary of these entries -/
  | ofEntries (comparison : KeyComparison) (entries : List (String × Value))
  | insert (key : String) (v : Value)
  | remove (key : String)
  | findOrAdd (key : String) (generate : Unit → Value)
  | intoReadOnly
  | get (key : String)
  | contains (key : String)
  | keys
  | entries
  | size

/-- What an operation answers. -/
inductive DictionaryAnswer where
  | done
  | inserted (outcome : Except HostError Unit)
  | removed (outcome : Except HostError (Option Value))
  /-- the value, and whether it was generated -/
  | provided (outcome : Except HostError (Value × Bool))
  | found (v : Option Value)
  | held (b : Bool)
  | keys (keys : List String)
  | entries (entries : List (String × Value))
  | size (n : Nat)

/-- Perform operations one after the other, and collect their answers. -/
def runOperations {σ : Type}
    (perform : σ → DictionaryOperation → DictionaryAnswer × σ) (state : σ) :
    List DictionaryOperation → List DictionaryAnswer × σ
  | [] => ([], state)
  | op :: rest =>
    let (answer, next) := perform state op
    let (answers, final) := runOperations perform next rest
    (answer :: answers, final)

/-- A list of entries in the order of insertion, under a comparison of keys. -/
structure Listing where
  comparison : KeyComparison
  readOnly : Bool
  entries : List (String × Value)

namespace Listing

/-- The writable listing without entries. -/
def empty (c : KeyComparison) : Listing := ⟨c, false, []⟩

/-- The entry whose key matches. -/
def find? (l : Listing) (key : String) : Option (String × Value) :=
  Entries.find? l.comparison l.entries key

/-- An operation on a listing. Writes to a read-only listing fail under the key and change nothing;
only an absent key has its value generated. -/
def perform (l : Listing) : DictionaryOperation → DictionaryAnswer × Listing
  | .ofEntries c es => (.done, ⟨c, false, Entries.collect c es⟩)
  | .insert key v =>
    if l.readOnly then (.inserted (.error (.readOnly key)), l)
    else (.inserted (.ok ()), { l with entries := Entries.put l.comparison l.entries key v })
  | .remove key =>
    if l.readOnly then (.removed (.error (.readOnly key)), l)
    else (.removed (.ok ((l.find? key).map (·.2))),
      { l with entries := Entries.remove l.comparison l.entries key })
  | .findOrAdd key generate =>
    match l.find? key with
    | some e => (.provided (.ok (e.2, false)), l)
    | none =>
      if l.readOnly then (.provided (.error (.readOnly key)), l)
      else (.provided (.ok (generate (), true)),
        { l with entries := l.entries ++ [(key, generate ())] })
  | .intoReadOnly => (.done, { l with readOnly := true })
  | .get key => (.found ((l.find? key).map (·.2)), l)
  | .contains key => (.held (l.find? key).isSome, l)
  | .keys => (.keys (l.entries.map (·.1)), l)
  | .entries => (.entries l.entries, l)
  | .size => (.size l.entries.length, l)

end Listing

namespace Dictionary

/-- The listing that a dictionary stands for. -/
def listing (d : Dictionary) : Listing := ⟨d.comparison, d.readOnly, d.entries.toList⟩

/-- An operation on a dictionary; one that fails leaves it as it is. -/
def perform (d : Dictionary) : DictionaryOperation → DictionaryAnswer × Dictionary
  | .ofEntries c es => (.done, ofEntries c es)
  | .insert key v =>
    match d.insert key v with
    | .ok after => (.inserted (.ok ()), after)
    | .error e => (.inserted (.error e), d)
  | .remove key =>
    match d.remove key with
    | .ok (v, after) => (.removed (.ok v), after)
    | .error e => (.removed (.error e), d)
  | .findOrAdd key generate =>
    match d.findOrAdd key generate with
    | .ok r => (.provided (.ok (r.value, r.generated)), r.dictionary)
    | .error e => (.provided (.error e), d)
  | .intoReadOnly => (.done, d.intoReadOnly)
  | .get key => (.found (d.get? key), d)
  | .contains key => (.held (d.contains key), d)
  | .keys => (.keys d.keys, d)
  | .entries => (.entries d.entries.toList, d)
  | .size => (.size d.size, d)

/-! ## One operation -/

@[simp] theorem listing_comparison (d : Dictionary) : d.listing.comparison = d.comparison := rfl
@[simp] theorem listing_entries (d : Dictionary) : d.listing.entries = d.entries.toList := rfl

@[simp] theorem find?_listing (d : Dictionary) (key : String) :
    d.listing.find? key = Entries.find? d.comparison d.entries.toList key := rfl

theorem listing_put (d : Dictionary) (key : String) (v : Value) :
    (d.put key v).listing =
      { d.listing with entries := Entries.put d.comparison d.entries.toList key v } := by
  simp [listing, toList_put]

theorem insert_refines (d : Dictionary) (key : String) (v : Value) :
    (d.perform (.insert key v)).map id listing = d.listing.perform (.insert key v) := by
  simp only [perform, Listing.perform, insert_eq]
  by_cases hro : d.readOnly = true
  · have hlisting : d.listing.readOnly = true := hro
    rw [if_pos hro, if_pos hlisting]
    rfl
  · have hlisting : ¬ d.listing.readOnly = true := hro
    rw [if_neg hro, if_neg hlisting]
    simp [listing_put]

theorem remove_refines (d : Dictionary) (key : String) :
    (d.perform (.remove key)).map id listing = d.listing.perform (.remove key) := by
  simp only [perform, Listing.perform]
  by_cases hro : d.readOnly = true
  · have hlisting : d.listing.readOnly = true := hro
    rw [if_pos hlisting, remove_of_readOnly hro]
    rfl
  · have hlisting : ¬ d.listing.readOnly = true := hro
    rw [Bool.not_eq_true] at hro
    obtain ⟨after, heq, hcomparison, hwritable, hlist⟩ := remove_of_writable hro key
    have hafter : after.listing =
        { d.listing with entries := Entries.remove d.comparison d.entries.toList key } := by
      rw [listing, hcomparison, hwritable, hlist, ← hro]
      rfl
    rw [if_neg hlisting, heq]
    simp [hafter]

theorem findOrAdd_refines (d : Dictionary) (key : String) (generate : Unit → Value) :
    (d.perform (.findOrAdd key generate)).map id listing =
      d.listing.perform (.findOrAdd key generate) := by
  simp only [perform, Listing.perform, findOrAdd_eq, find?_listing]
  cases hfind : Entries.find? d.comparison d.entries.toList key with
  | some e => rfl
  | none =>
    by_cases hro : d.readOnly = true
    · have hlisting : d.listing.readOnly = true := hro
      simp only [if_pos hro, if_pos hlisting]
      rfl
    · have hlisting : ¬ d.listing.readOnly = true := hro
      have hnone : (d.entries.toList.any fun e => d.comparison.keysMatch e.1 key) = false := by
        rw [← Entries.isSome_find?, hfind]
        rfl
      have hput : Entries.put d.comparison d.entries.toList key (generate ()) =
          d.entries.toList ++ [(key, generate ())] := by
        rw [Entries.put, hnone]
        rfl
      simp only [if_neg hro, if_neg hlisting]
      simp [listing_put, hput]

/-- One operation answers like the listing, and leaves a dictionary that stands for the listing that
is left. -/
theorem perform_refines (d : Dictionary) (op : DictionaryOperation) :
    (d.perform op).map id listing = d.listing.perform op := by
  cases op with
  | ofEntries c es => simp [perform, Listing.perform, listing, toList_ofEntries]
  | insert key v => exact d.insert_refines key v
  | remove key => exact d.remove_refines key
  | findOrAdd key generate => exact d.findOrAdd_refines key generate
  | intoReadOnly => rfl
  | get key => simp [perform, Listing.perform, get?_eq_find?, find?_listing]
  | contains key => simp [perform, Listing.perform, contains_eq_isSome_find?, find?_listing]
  | keys => rfl
  | entries => rfl
  | size => simp [perform, Listing.perform, listing, size]

/-! ## Runs -/

theorem run_refines (d : Dictionary) (ops : List DictionaryOperation) :
    (runOperations perform d ops).map id listing =
      runOperations Listing.perform d.listing ops := by
  induction ops generalizing d with
  | nil => rfl
  | cons op rest ih =>
    have hstep := d.perform_refines op
    unfold runOperations
    rw [← hstep]
    simp only [Prod.map, id_eq]
    rw [← ih]
    rfl

/-- **Dictionaries are listings.** From an empty dictionary under either comparison, every run of
operations gives the answers that the listing gives and ends in a dictionary that stands for the
listing that is left. There, no two entries have keys that match, and the index leads from exactly
the folded keys of the entries to exactly their positions. -/
theorem run_answers_like_listing (c : KeyComparison) (ops : List DictionaryOperation) :
    let actual := runOperations perform (empty c) ops
    let reference := runOperations Listing.perform (Listing.empty c) ops
    actual.1 = reference.1 ∧ actual.2.listing = reference.2 ∧
      Entries.Distinct reference.2.comparison reference.2.entries ∧
      ∀ (folded : String) (i : Nat), actual.2.index[folded]? = some i ↔
        reference.2.entries[i]?.map (fun e => reference.2.comparison.fold e.1) = some folded := by
  intro actual reference
  have hrun : actual.map id listing = reference := run_refines (empty c) ops
  have hfinal : actual.2.listing = reference.2 := congrArg Prod.snd hrun
  refine ⟨congrArg Prod.fst hrun, hfinal, ?_, fun folded i => ?_⟩
  · rw [← hfinal]
    exact actual.2.distinct_entries
  · rw [← hfinal]
    have hiff := actual.2.index_iff folded i
    rw [← Array.getElem?_toList] at hiff
    exact hiff

end Dictionary

/-! ## Answers without an index -/

/-- A mapping answers every question from its keys and its look-up: it goes through the keys for the
first that matches under the comparison that is asked for, has a key if look-up finds a value, and
lists the keys with what look-up finds under them. -/
structure Mapping.AnswersByLookUp (m : Mapping) : Prop where
  findKey : ∀ key c, m.findKey? key c = m.keys.find? fun stored => c.keysMatch stored key
  contains : ∀ key, m.contains key = (m.get? key).isSome
  entries : m.entries = m.keys.filterMap fun key => (m.get? key).map fun v => (key, v)
  size : m.size = m.keys.length

/-- A foreign mapping has no other way to answer; a dictionary comes to the same by its index. -/
theorem Mapping.answersByLookUp (m : Mapping) : m.AnswersByLookUp := by
  cases m with
  | foreign f => exact ⟨fun _ _ => rfl, fun _ => rfl, rfl, rfl⟩
  | dictionary d =>
    refine ⟨d.findKey?_eq_find?, d.contains_eq_isSome_get?, d.filterMap_keys_get?.symm, ?_⟩
    simp [Mapping.size, Mapping.keys, Dictionary.size, Dictionary.keys]

/-- **The index does not show.** After every run of operations, from an empty dictionary under
either comparison, the dictionary answers from its index as it would from its keys and its look-up,
whichever comparison a key is asked for under; and its entries are all of its keys in order, each
with the value that look-up finds. -/
theorem Dictionary.run_answers_by_look_up (c : KeyComparison) (ops : List DictionaryOperation) :
    let d := (runOperations perform (empty c) ops).2
    (Mapping.dictionary d).AnswersByLookUp ∧
      d.entries.toList.map (fun e => (e.1, some e.2)) = d.keys.map fun key => (key, d.get? key) :=
  ⟨Mapping.answersByLookUp _, map_toList_entries _⟩

-- A key that is removed and inserted again is stored as it is spelled then: asked for literally, it
-- answers to no other spelling.
example :
    let d := (runOperations Dictionary.perform (.empty .ignoreCase)
      [.insert "Id" .null, .insert "Name" .null, .remove "ID", .insert "id" .null]).2
    d.findKey? "id" .ordinal = some "id" ∧ d.findKey? "Id" .ordinal = none ∧
      d.findKey? "ID" .ignoreCase = some "id" := by
  decide +kernel

end DuckTyping
