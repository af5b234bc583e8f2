import DuckTyping.Proofs.KeyedEntries

set_option autoImplicit false

/-!
# The entries of a dictionary

A dictionary answers from its index what its list of entries answers by search, and each of its
operations does to that list what the plain operation does.
-/

namespace DuckTyping

namespace Dictionary

/-- No two entries of a dictionary have keys that match under its comparison. -/
theorem distinct_entries (d : Dictionary) : Entries.Distinct d.comparison d.entries.toList := by
  unfold Entries.Distinct
  rw [List.nodup_iff_getElem?_ne_getElem?]
  intro i j hij hj heq
  rw [List.length_map] at hj
  have hfolded : ∀ k : Nat, (d.entries.toList.map fun e => d.comparison.fold e.1)[k]? =
      d.entries[k]?.map fun e => d.comparison.fold e.1 := by
    intro k
    rw [List.getElem?_map, Array.getElem?_toList]
  have hsome : ∃ folded, d.entries[j]?.map (fun e => d.comparison.fold e.1) = some folded := by
    rw [← hfolded, List.getElem?_eq_getElem (by simpa using hj)]
    exact ⟨_, rfl⟩
  obtain ⟨folded, hjf⟩ := hsome
  have hif : d.entries[i]?.map (fun e => d.comparison.fold e.1) = some folded := by
    rw [← hfolded, heq, hfolded, hjf]
  -- the index leads from one folded key to one position
  have hindexi := (d.index_iff folded i).2 hif
  have hindexj := (d.index_iff folded j).2 hjf
  rw [hindexi] at hindexj
  have : i = j := Option.some.inj hindexj
  omega

/-- The index leads to the entry that a search of the list finds. -/
theorem entry_at_position (d : Dictionary) (key : String) :
    ((d.position? key).bind fun i => d.entries[i]?) =
      Entries.find? d.comparison d.entries.toList key := by
  refine Option.ext fun e => ?_
  rw [Option.bind_eq_some_iff, Entries.find?_eq_some_iff d.distinct_entries]
  constructor
  · rintro ⟨i, hi, he⟩
    obtain ⟨other, hother, hmatch⟩ := position?_eq_some_iff.1 hi
    have hsame : other = e := Option.some.inj (hother.symm.trans he)
    subst hsame
    exact ⟨List.mem_of_getElem? (Array.getElem?_toList.trans he), hmatch⟩
  · rintro ⟨hmem, hmatch⟩
    obtain ⟨i, hi⟩ := List.mem_iff_getElem?.1 hmem
    rw [Array.getElem?_toList] at hi
    exact ⟨i, position?_eq_some_iff.2 ⟨e, hi, hmatch⟩, hi⟩

theorem isSome_position? (d : Dictionary) (key : String) :
    (d.position? key).isSome = (Entries.find? d.comparison d.entries.toList key).isSome := by
  rw [← entry_at_position]
  cases hi : d.position? key with
  | none => rfl
  | some i =>
    obtain ⟨e, he, _⟩ := position?_eq_some_iff.1 hi
    simp [he]

/-! ## Reading -/

theorem get?_eq_find? (d : Dictionary) (key : String) :
    d.get? key = (Entries.find? d.comparison d.entries.toList key).map (·.2) := by
  rw [← entry_at_position, Option.map_bind]
  rfl

theorem contains_eq_isSome_find? (d : Dictionary) (key : String) :
    d.contains key = (Entries.find? d.comparison d.entries.toList key).isSome :=
  d.isSome_position? key

theorem contains_eq_isSome_get? (d : Dictionary) (key : String) :
    d.contains key = (d.get? key).isSome := by
  rw [contains_eq_isSome_find?, get?_eq_find?, Option.isSome_map]

theorem get?_of_mem {d : Dictionary} {e : String × Value} (h : e ∈ d.entries.toList) :
    d.get? e.1 = some e.2 := by
  rw [get?_eq_find?, Entries.find?_of_mem d.distinct_entries h]
  rfl

theorem contains_iff {d : Dictionary} {key : String} :
    d.contains key = true ↔ ∃ stored ∈ d.keys, d.comparison.keysMatch stored key = true := by
  rw [contains_eq_isSome_find?, Entries.isSome_find?, List.any_eq_true, keys]
  simp only [List.mem_map, exists_exists_and_eq_and]

theorem eq_of_keysMatch {d : Dictionary} {stored other : String} (hs : stored ∈ d.keys)
    (ho : other ∈ d.keys) (h : d.comparison.keysMatch stored other = true) : stored = other := by
  obtain ⟨e, he, rfl⟩ := List.mem_map.1 hs
  obtain ⟨f, hf, rfl⟩ := List.mem_map.1 ho
  have hentry : e = f := List.inj_on_of_nodup_map d.distinct_entries he hf
    (KeyComparison.keysMatch_iff.1 h)
  rw [hentry]

/-- Whether or not the index answers, the key that is found is the first that matches under the
comparison that is asked for. -/
theorem findKey?_eq_find? (d : Dictionary) (key : String) (c : KeyComparison) :
    d.findKey? key c = d.keys.find? fun stored => c.keysMatch stored key := by
  unfold findKey?
  split
  · rename_i hc
    have hfiner : ∀ stored, c.keysMatch stored key = true →
        d.comparison.keysMatch stored key = true := by
      intro stored h
      rcases hc with rfl | rfl
      · exact h
      · have heq : stored = key := KeyComparison.keysMatch_iff.1 h
        rw [heq]
        exact KeyComparison.keysMatch_self _ _
    have hindex : ((d.position? key).bind fun i =>
        (d.entries[i]?.map (·.1)).filter fun stored => c.keysMatch stored key) =
        ((Entries.find? d.comparison d.entries.toList key).filter
          fun e => c.keysMatch e.1 key).map (·.1) := by
      rw [← entry_at_position]
      cases d.position? key with
      | none => rfl
      | some i => simp [Option.filter_map, Function.comp_def]
    rw [hindex, ← Entries.find?_eq_filter_of_imp d.distinct_entries hfiner, keys, List.find?_map]
    rfl
  · rfl

/-- Each entry is its key with the value that look-up finds under it; no entry is left out. -/
theorem map_toList_entries (d : Dictionary) :
    d.entries.toList.map (fun e => (e.1, some e.2)) = d.keys.map fun key => (key, d.get? key) := by
  rw [keys, List.map_map]
  refine List.map_congr_left fun e he => ?_
  rw [Function.comp_apply, get?_of_mem he]

theorem filterMap_keys_get? (d : Dictionary) :
    (d.keys.filterMap fun key => (d.get? key).map fun v => (key, v)) = d.entries.toList := by
  have hfound : ∀ e ∈ d.entries.toList, (d.get? e.1).map (fun v => (e.1, v)) = some e := by
    intro e he
    rw [get?_of_mem he, Option.map_some]
  rw [keys, List.filterMap_map]
  exact (List.filterMap_congr hfound).trans List.filterMap_some

/-! ## Writing -/

/-- Around the entry at a position the others do not match its key. -/
theorem exists_split {d : Dictionary} {key : String} {i : Nat} (h : d.position? key = some i) :
    ∃ before e after, d.entries.toList = before ++ e :: after ∧ before.length = i ∧
      d.comparison.keysMatch e.1 key = true ∧
      ∀ other ∈ before ++ after, d.comparison.keysMatch other.1 key = false := by
  obtain ⟨e, he, hmatch⟩ := position?_eq_some_iff.1 h
  rw [← Array.getElem?_toList] at he
  obtain ⟨hlt, hget⟩ := List.getElem?_eq_some_iff.1 he
  have hsplit : d.entries.toList =
      d.entries.toList.take i ++ e :: d.entries.toList.drop (i + 1) := by
    rw [← hget, List.getElem_cons_drop, List.take_append_drop]
  have hlength := List.length_take_of_le (Nat.le_of_lt hlt)
  refine ⟨_, e, _, hsplit, hlength, hmatch, fun other hother => ?_⟩
  have hnodup := d.distinct_entries
  unfold Entries.Distinct at hnodup
  rw [hsplit, List.map_append, List.map_cons] at hnodup
  have hne : d.comparison.fold other.1 ≠ d.comparison.fold e.1 := by
    intro hfold
    have hfoldmem : d.comparison.fold e.1 ∈ (d.entries.toList.take i ++
        d.entries.toList.drop (i + 1)).map fun e => d.comparison.fold e.1 :=
      List.mem_map.2 ⟨other, hother, hfold⟩
    rw [List.map_append] at hfoldmem
    exact (List.nodup_middle.1 hnodup).notMem hfoldmem
  rw [Bool.eq_false_iff]
  intro hother
  rw [KeyComparison.keysMatch_iff] at hother hmatch
  exact hne (hother.trans hmatch.symm)

theorem toList_put_of_position? {d : Dictionary} {key : String}
    {before after : List (String × Value)} {e : String × Value}
    (hsplit : d.entries.toList = before ++ e :: after) (h : d.position? key = some before.length)
    (v : Value) : (d.put key v).entries.toList = before ++ (e.1, v) :: after := by
  unfold put
  split
  · rename_i i hi
    rw [h] at hi
    cases hi
    have hlt : before.length < (before ++ e :: after).length := by
      rw [List.length_append, List.length_cons]
      omega
    rw [replaceAt, Array.toList_modify, hsplit, List.modify_eq_take_cons_drop hlt]
    simp
  · rename_i hnone
    rw [h] at hnone
    cases hnone

theorem toList_put_of_position?_eq_none {d : Dictionary} {key : String}
    (h : d.position? key = none) (v : Value) :
    (d.put key v).entries.toList = d.entries.toList ++ [(key, v)] := by
  unfold put
  split
  · rename_i i hi
    rw [h] at hi
    cases hi
  · exact Array.toList_push

/-- Putting a value does to the entries what the plain operation does. -/
theorem toList_put (d : Dictionary) (key : String) (v : Value) :
    (d.put key v).entries.toList = Entries.put d.comparison d.entries.toList key v := by
  have hsome := d.isSome_position? key
  rw [Entries.isSome_find?] at hsome
  unfold Entries.put
  rw [← hsome]
  cases hi : d.position? key with
  | some i =>
    obtain ⟨before, e, after, hsplit, rfl, hmatch, hothers⟩ := exists_split hi
    have hkeep : ∀ es : List (String × Value), (∀ other ∈ es, other ∈ before ++ after) →
        es.map (fun e => if d.comparison.keysMatch e.1 key then (e.1, v) else e) = es := by
      intro es hes
      conv_rhs => rw [← List.map_id es]
      refine List.map_congr_left fun other hother => ?_
      simp [hothers other (hes other hother)]
    rw [toList_put_of_position? hsplit hi, hsplit, List.map_append, List.map_cons,
      hkeep before (by simp_all), hkeep after (by simp_all)]
    simp [hmatch]
  | none =>
    rw [toList_put_of_position?_eq_none hi]
    rfl

@[simp] theorem comparison_put (d : Dictionary) (key : String) (v : Value) :
    (d.put key v).comparison = d.comparison := by
  unfold put
  split <;> rfl

@[simp] theorem readOnly_put (d : Dictionary) (key : String) (v : Value) :
    (d.put key v).readOnly = d.readOnly := by
  unfold put
  split <;> rfl

/-- After a put, the value is found under every key that matches, and what was found before under
all others. -/
theorem get?_put (d : Dictionary) (key : String) (v : Value) (k : String) :
    (d.put key v).get? k = if d.comparison.keysMatch key k then some v else d.get? k := by
  rw [get?_eq_find?, toList_put, comparison_put, Entries.find?_put, get?_eq_find?]

theorem keys_put (d : Dictionary) (key : String) (v : Value) :
    (d.put key v).keys = if d.contains key then d.keys else d.keys ++ [key] := by
  have hany : d.keys.any (d.comparison.keysMatch key) = d.contains key := by
    rw [contains_eq_isSome_find?, Entries.isSome_find?, keys, List.any_map]
    congr 1
    funext e
    exact KeyComparison.keysMatch_comm d.comparison key e.1
  rw [← hany, keys, toList_put, Entries.map_fst_put]
  rfl

/-- Deleting the entry at the position of a key leaves the entries that do not match the key. -/
theorem toList_deleteAt {d : Dictionary} {key : String} {i : Nat} (h : d.position? key = some i) :
    (d.deleteAt (d.comparison.fold key) i h).entries.toList =
      Entries.remove d.comparison d.entries.toList key := by
  obtain ⟨before, e, after, hsplit, hlen, hmatch, hothers⟩ := exists_split h
  have hkeep : ∀ es : List (String × Value), (∀ other ∈ es, other ∈ before ++ after) →
      es.filter (fun e => !d.comparison.keysMatch e.1 key) = es := by
    intro es hes
    refine List.filter_eq_self.2 fun other hother => ?_
    simp [hothers other (hes other hother)]
  have hdelete : (d.deleteAt (d.comparison.fold key) i h).entries.toList =
      d.entries.toList.eraseIdx i := Array.toList_eraseIdxIfInBounds
  rw [hdelete, Entries.remove, hsplit, ← hlen, List.filter_append, List.filter_cons,
    hkeep before (by simp_all), hkeep after (by simp_all)]
  simp [hmatch, List.eraseIdx_append]

theorem remove_eq_self {d : Dictionary} {key : String} (h : d.position? key = none) :
    Entries.remove d.comparison d.entries.toList key = d.entries.toList := by
  have hnone := d.isSome_position? key
  rw [h, Entries.isSome_find?] at hnone
  refine List.filter_eq_self.2 fun e he => ?_
  have hmatch := List.any_eq_false.1 hnone.symm e he
  simpa using hmatch

theorem insert_eq (d : Dictionary) (key : String) (v : Value) :
    d.insert key v = if d.readOnly then .error (.readOnly key) else .ok (d.put key v) := by
  unfold insert checkWritable
  split <;> rfl

theorem remove_of_readOnly {d : Dictionary} (h : d.readOnly = true) (key : String) :
    d.remove key = .error (.readOnly key) := by
  simp [remove, checkWritable, h, Except.map]

theorem remove_of_writable {d : Dictionary} (h : d.readOnly = false) (key : String) :
    ∃ after, d.remove key =
        .ok ((Entries.find? d.comparison d.entries.toList key).map (·.2), after) ∧
      after.comparison = d.comparison ∧ after.readOnly = false ∧
      after.entries.toList = Entries.remove d.comparison d.entries.toList key := by
  have hwritable : d.checkWritable key = .ok () := by simp [checkWritable, h]
  unfold remove
  rw [hwritable, ← entry_at_position]
  simp only [Except.map]
  split
  · rename_i i hi
    have hposition : d.position? key = some i := hi
    refine ⟨d.deleteAt (d.comparison.fold key) i hi, ?_, rfl, h, toList_deleteAt hposition⟩
    rw [hposition]
    rfl
  · rename_i hi
    have hposition : d.position? key = none := hi
    refine ⟨d, ?_, rfl, h, (remove_eq_self hposition).symm⟩
    rw [hposition]
    rfl

/-- A look-up with a default generates only where no key matches, and writes only there. -/
theorem findOrAdd_eq (d : Dictionary) (key : String) (generate : Unit → Value) :
    d.findOrAdd key generate =
      match Entries.find? d.comparison d.entries.toList key with
      | some e => .ok ⟨e.2, false, d⟩
      | none =>
        if d.readOnly then .error (.readOnly key)
        else .ok ⟨generate (), true, d.put key (generate ())⟩ := by
  unfold findOrAdd checkWritable
  rw [get?_eq_find?]
  cases Entries.find? d.comparison d.entries.toList key with
  | some e => rfl
  | none =>
    simp only [Option.map_none]
    split <;> rfl

/-! ## Building -/

@[simp] theorem comparison_ofEntries (c : KeyComparison) (es : List (String × Value)) :
    (ofEntries c es).comparison = c := by
  unfold ofEntries
  induction es using List.reverseRecOn with
  | nil => rfl
  | append_singleton es e ih => simpa using ih

@[simp] theorem readOnly_ofEntries (c : KeyComparison) (es : List (String × Value)) :
    (ofEntries c es).readOnly = false := by
  unfold ofEntries
  induction es using List.reverseRecOn with
  | nil => rfl
  | append_singleton es e ih => simpa using ih

theorem toList_ofEntries (c : KeyComparison) (es : List (String × Value)) :
    (ofEntries c es).entries.toList = Entries.collect c es := by
  induction es using List.reverseRecOn with
  | nil => rfl
  | append_singleton es e ih =>
    have hlast : ofEntries c (es ++ [e]) = (ofEntries c es).put e.1 e.2 := by
      simp [ofEntries]
    rw [hlast, toList_put, comparison_ofEntries, ih, Entries.collect_concat]

end Dictionary

end DuckTyping
