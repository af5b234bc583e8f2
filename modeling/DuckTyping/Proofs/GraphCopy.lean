import DuckTyping.Proofs.CopyDiscovery
import DuckTyping.Proofs.DictionaryEntries

set_option autoImplicit false

/-!
# A copy that ignores case is a faithful copy of the graph

The copy of a dictionary has the first spelling and the last value of each class of keys that are
equal ignoring case, and refers to the copies of what its source refers to. So the copies form the
same graph as their sources, but for the entries that gave way to later ones: what was shared stays
shared, cycles stay cycles, and nothing leads from a copy back to a mapping that was there before.
-/

namespace DuckTyping

namespace Store

variable {σ : Store} {m : MapRef} {found : List MapRef}

/-! ## What a copy holds -/

theorem last?_relabelEntries (T : MapRef → MapRef) (c : KeyComparison) (es : List (String × Value))
    (key : String) :
    Entries.last? c (relabelEntries T es) key =
      (Entries.last? c es key).map fun e => (e.1, e.2.relabel T) := by
  rw [Entries.last?, Entries.find?, relabelEntries, ← List.map_reverse, List.find?_map]
  rfl

/-- A copy has of each class of keys the spelling that comes first, in order. -/
theorem keys_copyOf (σ : Store) (found : List MapRef) (x : MapRef) :
    (σ.copyOf found x).keys =
      ((σ.entries x).map (·.1)).eraseDupsBy KeyComparison.ignoreCase.keysMatch := by
  rw [Dictionary.keys, copyOf, Dictionary.toList_ofEntries, Entries.map_fst_collect,
    relabelEntries, List.map_map]
  rfl

/-- A copy has of each class of keys the value that comes last, with its references replaced. -/
theorem last?_of_mem_copyOf {x : MapRef} {e : String × Value}
    (he : e ∈ (σ.copyOf found x).entries.toList) :
    ∃ last, Entries.last? .ignoreCase (σ.entries x) e.1 = some last ∧
      e.2 = last.2.relabel (σ.copyRef found) := by
  have hdistinct := (σ.copyOf found x).distinct_entries
  have hfind := Entries.find?_of_mem hdistinct he
  rw [copyOf, Dictionary.comparison_ofEntries, Dictionary.toList_ofEntries] at hfind
  have hvalue := congrArg (Option.map Prod.snd) hfind
  rw [Entries.find?_collect, last?_relabelEntries, Option.map_map] at hvalue
  obtain ⟨last, hlast, heq⟩ := Option.map_eq_some_iff.1 hvalue
  exact ⟨last, hlast, heq.symm⟩

/-! ## The copied graph -/

/-- The store with the copies of the discovered mappings behind its own. -/
def withCopies (σ : Store) (found : List MapRef) : Store :=
  { σ with
    mappings := σ.mappings ++
      ((found.map (σ.copyOf found)).map Mapping.dictionary).toArray }

theorem getElem?_withCopies {x : MapRef} (hx : x ∈ found) :
    (σ.withCopies found).mappings[σ.mappings.size + found.idxOf x]? =
      some (.dictionary (σ.copyOf found x)) := by
  have hlt := List.idxOf_lt_length_of_mem hx
  have hget : found[found.idxOf x]? = some x := by
    rw [List.getElem?_eq_getElem hlt, List.getElem_idxOf]
  rw [withCopies, Array.getElem?_append_right (Nat.le_add_right _ _), Nat.add_sub_cancel_left,
    List.getElem?_toArray, List.getElem?_map, List.getElem?_map, hget]
  rfl

theorem keys_eq_of_cell {a : Nat} {d : Dictionary} (hd : σ.mappings[a]? = some (.dictionary d)) :
    σ.keys (.cell a) = (σ.entries (.cell a)).map (·.1) := by
  rw [keys, entries, mapping_of_getElem? hd]
  rfl

/-- The part of a store that a mapping reaches has a copy that ignores case, under the assignment of
copies to sources given by `T`. -/
structure GraphCopy (σ σ' : Store) (m : MapRef) (T : MapRef → MapRef) : Prop where
  /-- different mappings have different copies -/
  injective : ∀ x y, σ.Reaches m x → σ.Reaches m y → T x = T y → x = y
  /-- a copy is a new, writable dictionary that ignores case -/
  dictionary : ∀ x, σ.Reaches m x → ∃ a d, T x = .cell a ∧ σ.mappings.size ≤ a ∧
    σ'.mappings[a]? = some (.dictionary d) ∧ d.comparison = .ignoreCase ∧ d.readOnly = false
  /-- of the keys that are equal ignoring case, it has the first spelling, in order -/
  keys : ∀ x, σ.Reaches m x →
    σ'.keys (T x) = (σ.keys x).eraseDupsBy KeyComparison.ignoreCase.keysMatch
  /-- of the entries whose keys are equal ignoring case, it has the last value, with the copies in
  place of the mappings -/
  values : ∀ x, σ.Reaches m x → ∀ e ∈ σ'.entries (T x), ∃ last,
    Entries.last? .ignoreCase (σ.entries x) e.1 = some last ∧ e.2 = last.2.relabel T
  /-- the copy of the root reaches copies only -/
  closed : ∀ y, σ'.Reaches (T m) y → ∃ x, σ.Reaches m x ∧ y = T x
  /-- no mapping that was there before can be reached from the copy of the root -/
  apart : ∀ a, σ'.Reaches (T m) (.cell a) → σ.mappings.size ≤ a
  /-- the mappings that were there before are as they were -/
  kept : ∀ a, a < σ.mappings.size → σ'.mappings[a]? = σ.mappings[a]?
  objects : σ'.objects = σ.objects
  nextTag : σ'.nextTag = σ.nextTag

section WithCopies

variable (hmem : ∀ y, y ∈ found ↔ σ.Reaches m y)

include hmem

theorem entries_withCopies {x : MapRef} (hx : σ.Reaches m x) :
    (σ.withCopies found).entries (σ.copyRef found x) =
      (σ.copyOf found x).entries.toList := by
  rw [copyRef, entries, mapping_of_getElem? (getElem?_withCopies ((hmem x).2 hx))]
  rfl

/-- The root's copy reaches nothing but copies. -/
theorem reaches_withCopies {y : MapRef}
    (hy : (σ.withCopies found).Reaches (σ.copyRef found m) y) :
    ∃ x, σ.Reaches m x ∧ y = σ.copyRef found x := by
  induction hy with
  | refl => exact ⟨m, .refl, rfl⟩
  | tail _ hstep ih =>
    obtain ⟨x, hx, rfl⟩ := ih
    obtain ⟨e, he, hz⟩ := hstep
    rw [entries_withCopies hmem hx] at he
    obtain ⟨last, hlast, hvalue⟩ := last?_of_mem_copyOf he
    rw [hvalue, Value.mapRefs_relabel] at hz
    obtain ⟨w, hw, rfl⟩ := List.mem_map.1 hz
    have hsource : last ∈ σ.entries x := List.mem_reverse.1 (List.mem_of_find?_eq_some hlast)
    exact ⟨w, hx.tail ⟨last, hsource, hw⟩, rfl⟩

/-- Once everything reached is discovered, the store with the copies is a copy of the graph. -/
theorem graphCopy_withCopies (hm : σ.ReachesDictionaries m) :
    GraphCopy σ (σ.withCopies found) m (σ.copyRef found) where
  injective := by
    intro x y hx hy heq
    have hindex := Nat.add_left_cancel (MapRef.cell.inj heq)
    exact (List.idxOf_inj ((hmem x).2 hx)).1 hindex
  dictionary := by
    intro x hx
    exact ⟨_, _, rfl, Nat.le_add_right _ _, getElem?_withCopies ((hmem x).2 hx),
      Dictionary.comparison_ofEntries _ _, Dictionary.readOnly_ofEntries _ _⟩
  keys := by
    intro x hx
    obtain ⟨a, d, rfl, hd⟩ := hm x hx
    rw [copyRef, Store.keys, mapping_of_getElem? (getElem?_withCopies ((hmem _).2 hx)),
      keys_eq_of_cell hd]
    exact keys_copyOf σ _ _
  values := by
    intro x hx e he
    rw [entries_withCopies hmem hx] at he
    exact last?_of_mem_copyOf he
  closed := fun y hy => reaches_withCopies hmem hy
  apart := by
    intro a ha
    obtain ⟨x, _, heq⟩ := reaches_withCopies hmem ha
    rw [MapRef.cell.inj heq]
    exact Nat.le_add_right _ _
  kept := fun a ha => Array.getElem?_append_left ha
  objects := rfl
  nextTag := rfl

end WithCopies

/-- **The copy that ignores case is a faithful copy of the graph.** Copying a mapping that reaches
nothing but dictionaries always succeeds, whatever they share and in whatever cycles they run, and
gives each of them a new copy of its own. -/
theorem exists_graphCopy (hm : σ.ReachesDictionaries m) :
    ∃ T σ', σ.toIgnoreCase? m = some (T m, σ') ∧ GraphCopy σ σ' m T := by
  obtain ⟨found, hcopy, hmem⟩ := exists_copyMapping hm
  refine ⟨σ.copyRef found, σ.withCopies found, ?_, graphCopy_withCopies hmem hm⟩
  simp only [toIgnoreCase?, hcopy, withCopies, Option.bind_eq_bind, Option.bind_some, List.map_map]
  rfl

/-- A dictionary that holds itself, and a closed one twice, under keys that differ in case alone. -/
theorem exists_graphCopy_cyclic :
    let inner := (Dictionary.ofEntries .ignoreCase [("Id", .bool true)]).intoReadOnly
    let outer := Dictionary.ofEntries .ordinal
      [("Self", .map (.cell 0)), ("Items", .list [.map (.cell 1)]), ("items", .map (.cell 1))]
    let σ : Store := ⟨#[.dictionary outer, .dictionary inner], #[], 0⟩
    σ.ReachesDictionaries (.cell 0) ∧
      ∃ T σ', σ.toIgnoreCase? (.cell 0) = some (T (.cell 0), σ') ∧
        GraphCopy σ σ' (.cell 0) T := by
  intro inner outer σ
  have hinner : inner.entries.toList = [("Id", .bool true)] :=
    Dictionary.toList_ofEntries _ _
  have houter : outer.entries.toList =
      [("Self", .map (.cell 0)), ("Items", .list [.map (.cell 1)]), ("items", .map (.cell 1))] := by
    have hcollect := Dictionary.toList_ofEntries .ordinal
      [("Self", .map (.cell 0)), ("Items", .list [.map (.cell 1)]), ("items", .map (.cell 1))]
    rw [hcollect]
    simp [Entries.collect, Entries.put, KeyComparison.keysMatch]
  have hm : σ.ReachesDictionaries (.cell 0) := by
    refine reachesDictionaries_of_closed (fun a ha => ?_) (Nat.zero_lt_two)
    have hcases : a = 0 ∨ a = 1 := by
      have hsize : σ.mappings.size = 2 := rfl
      omega
    rcases hcases with rfl | rfl
    · refine ⟨outer, rfl, fun e he y hy => ?_⟩
      rw [houter] at he
      have hcell : y = .cell 0 ∨ y = .cell 1 := by
        simp only [List.mem_cons, List.not_mem_nil, or_false] at he
        rcases he with rfl | rfl | rfl <;>
          simp_all [Value.mapRefs, Value.mapRefsIn]
      rcases hcell with rfl | rfl
      · exact ⟨0, rfl, Nat.zero_lt_two⟩
      · exact ⟨1, rfl, Nat.one_lt_two⟩
    · refine ⟨inner, rfl, fun e he y hy => ?_⟩
      rw [hinner, List.mem_singleton] at he
      rw [he] at hy
      exact absurd hy List.not_mem_nil
  exact ⟨hm, exists_graphCopy hm⟩

end Store

end DuckTyping
