import DuckTyping.Proofs.ReferenceGraph
import DuckTyping.Store.Copy
import Mathlib.Data.List.Nodup
import Mathlib.Data.List.Perm.Subperm

set_option autoImplicit false

/-!
# Discovery of the mappings to be copied

Copying meets the mappings that the root reaches, each once, and gives the one met at position `i`
the address of the `i`-th new cell; the references in the copies are the references of the sources
under this assignment. A call leaves the copies that it finds in the table as they are, filled or
not, and all that it adds is finished when it returns: a finished copy refers to mappings in the
table only, whose positions never change. Between two calls only the copy that is being filled
changes. As the mappings met are different cells of the store, the discovery ends.
-/

namespace DuckTyping

/-- The mappings in a table. -/
def CopyTable.sources (t : CopyTable) : List MapRef := t.map (·.1)

namespace CopyTable

@[simp] theorem length_refill (t : CopyTable) (i : Nat) (f : Dictionary → Dictionary) :
    (t.refill i f).length = t.length := List.length_modify _ _ _

@[simp] theorem sources_refill (t : CopyTable) (i : Nat) (f : Dictionary → Dictionary) :
    (t.refill i f).sources = t.sources := by
  refine List.ext_getElem? fun j => ?_
  rw [sources, sources, refill, List.getElem?_map, List.getElem?_map, List.getElem?_modify]
  cases t[j]? with
  | none => rfl
  | some e => by_cases hj : i = j <;> simp [hj]

theorem refill_append {t : CopyTable} {i : Nat} (hi : i < t.length) (added : CopyTable)
    (f : Dictionary → Dictionary) :
    CopyTable.refill (t ++ added) i f = t.refill i f ++ added := by
  induction t generalizing i with
  | nil => cases hi
  | cons e rest ih =>
    cases i with
    | zero => rfl
    | succ i => exact congrArg (e :: ·) (ih (Nat.lt_of_succ_lt_succ hi))

theorem refill_concat (t : CopyTable) (m : MapRef) (d : Dictionary) (f : Dictionary → Dictionary) :
    CopyTable.refill (t ++ [(m, d)]) t.length f = t ++ [(m, f d)] := by
  induction t with
  | nil => rfl
  | cons e rest ih => exact congrArg (e :: ·) ih

theorem refill_id (t : CopyTable) (i : Nat) : t.refill i (fun d => d) = t := List.modify_id i t

theorem refill_refill (t : CopyTable) (i : Nat) (f g : Dictionary → Dictionary) :
    (t.refill i f).refill i g = t.refill i (g ∘ f) := List.modify_modify_eq _ _ _ _

end CopyTable

namespace Store

/-! ## Positions -/

theorem findIdx?_same (t : CopyTable) (a : Nat) :
    (t.findIdx? fun e => (MapRef.cell a).same e.1) =
      if .cell a ∈ t.sources then some (t.sources.idxOf (.cell a)) else none := by
  have hsame : MapRef.same (.cell a) = fun x => x == .cell a := by
    funext x
    cases x with
    | cell b => exact Bool.eq_iff_iff.2 (by simp [MapRef.same, eq_comm (a := a)])
    | view tag inner comparison => rfl
  have hsources : (t.findIdx? fun e => (MapRef.cell a).same e.1) =
      t.sources.findIdx? (· == .cell a) := by
    rw [hsame, CopyTable.sources, List.findIdx?_map]
    rfl
  rw [hsources]
  split
  · rename_i hmem
    exact List.findIdx?_eq_some_iff_findIdx_eq.2 ⟨List.idxOf_lt_length_of_mem hmem, rfl⟩
  · rename_i hmem
    exact List.findIdx?_eq_none_iff.2 fun x hx => beq_false_of_ne fun h => hmem (h ▸ hx)

/-- The copy of a mapping that was met: the new cell of its position. -/
def copyRef (σ : Store) (met : List MapRef) (x : MapRef) : MapRef :=
  .cell (σ.mappings.size + met.idxOf x)

/-- A mapping keeps its copy while others are met. -/
theorem copyRef_of_prefix (σ : Store) {met later : List MapRef} (h : met <+: later) {x : MapRef}
    (hx : x ∈ met) : σ.copyRef later x = σ.copyRef met x := by
  obtain ⟨more, rfl⟩ := h
  rw [copyRef, copyRef, List.idxOf_append_of_mem hx]

/-! ## Finished copies -/

/-- The references in the values of some entries, in order. -/
def entryRefs (es : List (String × Value)) : List MapRef := es.flatMap fun e => e.2.mapRefs

/-- Entries with the references in their values replaced. -/
def relabelEntries (T : MapRef → MapRef) (es : List (String × Value)) : List (String × Value) :=
  es.map fun e => (e.1, e.2.relabel T)

theorem refers_iff {σ : Store} {x y : MapRef} : σ.Refers x y ↔ y ∈ entryRefs (σ.entries x) :=
  List.mem_flatMap.symm

theorem relabelEntries_congr {T U : MapRef → MapRef} {es : List (String × Value)}
    (h : ∀ y ∈ entryRefs es, T y = U y) : relabelEntries T es = relabelEntries U es :=
  List.map_congr_left fun e he =>
    congrArg (Prod.mk e.1) (Value.relabel_congr fun y hy => h y (List.mem_flatMap.2 ⟨e, he, hy⟩))

/-- Entries put into a dictionary one after another. -/
def fill (es : List (String × Value)) (d : Dictionary) : Dictionary :=
  es.foldl (fun d e => d.put e.1 e.2) d

/-- The copy that a mapping gets, as far as the mappings that it refers to have been met. -/
def copyOf (σ : Store) (met : List MapRef) (x : MapRef) : Dictionary :=
  .ofEntries .ignoreCase (relabelEntries (σ.copyRef met) (σ.entries x))

/-- All that a mapping refers to has been met, and its copy is what it will be in the end. -/
structure Finished (σ : Store) (met : List MapRef) (e : MapRef × Dictionary) : Prop where
  refs : ∀ y, σ.Refers e.1 y → y ∈ met
  copy : e.2 = σ.copyOf met e.1

theorem Finished.later {σ : Store} {met later : List MapRef} {e : MapRef × Dictionary}
    (h : σ.Finished met e) (hlater : met <+: later) : σ.Finished later e where
  refs y hy := hlater.subset (h.refs y hy)
  copy := by
    have hrefs : ∀ y ∈ entryRefs (σ.entries e.1), σ.copyRef met y = σ.copyRef later y :=
      fun y hy => (σ.copyRef_of_prefix hlater (h.refs y (refers_iff.2 hy))).symm
    rw [h.copy, copyOf, copyOf, relabelEntries_congr hrefs]

/-! ## Tables that grow -/

/-- The first table is left as it is, and what is added to it is finished in the second. -/
def GrowsTo (σ : Store) (t t' : CopyTable) : Prop :=
  ∃ added, t' = t ++ added ∧ ∀ e ∈ added, σ.Finished t'.sources e

section Growth

variable {σ : Store} {t t' t'' : CopyTable}

theorem growsTo_refl (σ : Store) (t : CopyTable) : σ.GrowsTo t t :=
  ⟨[], (List.append_nil t).symm, fun _ he => absurd he List.not_mem_nil⟩

theorem GrowsTo.prefix_sources (h : σ.GrowsTo t t') : t.sources <+: t'.sources := by
  obtain ⟨added, rfl, -⟩ := h
  exact ⟨CopyTable.sources added, List.map_append.symm⟩

theorem GrowsTo.length_le (h : σ.GrowsTo t t') : t.length ≤ t'.length := by
  obtain ⟨added, rfl, -⟩ := h
  rw [List.length_append]
  exact Nat.le_add_right _ _

theorem GrowsTo.trans (h : σ.GrowsTo t t') (h' : σ.GrowsTo t' t'') : σ.GrowsTo t t'' := by
  have hlater := h'.prefix_sources
  obtain ⟨added, rfl, hadded⟩ := h
  obtain ⟨more, rfl, hmore⟩ := h'
  refine ⟨added ++ more, List.append_assoc _ _ _, fun e he => ?_⟩
  rcases List.mem_append.1 he with he | he
  · exact (hadded e he).later hlater
  · exact hmore e he

/-- Nothing that is added depends on the copies that were there before. -/
theorem GrowsTo.refill (h : σ.GrowsTo t t') {i : Nat} (hi : i < t.length)
    (f : Dictionary → Dictionary) : σ.GrowsTo (t.refill i f) (t'.refill i f) := by
  obtain ⟨added, rfl, hadded⟩ := h
  refine ⟨added, CopyTable.refill_append hi added f, fun e he => ?_⟩
  rw [CopyTable.sources_refill]
  exact hadded e he

end Growth

/-! ## Calls -/

/-- Different mappings that the root reaches. -/
structure Met (σ : Store) (root : MapRef) (met : List MapRef) : Prop where
  nodup : met.Nodup
  reached : ∀ x ∈ met, σ.Reaches root x

/-- There are no more different cells than the store has mappings. -/
theorem Met.length_le {σ : Store} {root : MapRef} {met : List MapRef} (h : σ.Met root met)
    (hroot : σ.ReachesDictionaries root) : met.length ≤ σ.mappings.size := by
  have hsubset : met ⊆ (List.range σ.mappings.size).map MapRef.cell := by
    intro y hy
    obtain ⟨a, d, rfl, hd⟩ := hroot y (h.reached y hy)
    obtain ⟨hlt, _⟩ := Array.getElem?_eq_some_iff.1 hd
    exact List.mem_map.2 ⟨a, List.mem_range.2 hlt, rfl⟩
  have hle := (List.subperm_of_subset h.nodup hsubset).length_le
  rw [List.length_map, List.length_range] at hle
  exact hle

/-- A table has grown into another one, in which some mappings have been met. -/
structure Meets (σ : Store) (root : MapRef) (t : CopyTable) (refs : List MapRef)
    (t' : CopyTable) : Prop where
  met : σ.Met root t'.sources
  grows : σ.GrowsTo t t'
  mem : ∀ y ∈ refs, y ∈ t'.sources

variable {σ : Store} {root : MapRef}

theorem meets_nil {t : CopyTable} (h : σ.Met root t.sources) : σ.Meets root t [] t :=
  ⟨h, growsTo_refl σ t, fun _ hy => absurd hy List.not_mem_nil⟩

theorem Meets.trans {t t' t'' : CopyTable} {refs more : List MapRef} (h : σ.Meets root t refs t')
    (h' : σ.Meets root t' more t'') : σ.Meets root t (refs ++ more) t'' where
  met := h'.met
  grows := h.grows.trans h'.grows
  mem y hy := (List.mem_append.1 hy).elim
    (fun hy => h'.grows.prefix_sources.subset (h.mem y hy)) (h'.mem y)

theorem Meets.refill {t t' : CopyTable} {refs : List MapRef} (h : σ.Meets root t refs t') {i : Nat}
    (hi : i < t.length) (f : Dictionary → Dictionary) :
    σ.Meets root (t.refill i f) refs (t'.refill i f) where
  met := (t'.sources_refill i f).symm ▸ h.met
  grows := h.grows.refill hi f
  mem := (t'.sources_refill i f).symm ▸ h.mem

theorem Meets.copyRef_eq {t t' : CopyTable} {refs later : List MapRef}
    (h : σ.Meets root t refs t') (hlater : t'.sources <+: later) :
    ∀ y ∈ refs, σ.copyRef t'.sources y = σ.copyRef later y :=
  fun y hy => (σ.copyRef_of_prefix hlater (h.mem y hy)).symm

/-- With `n` mappings in the table, every mapping that the root reaches is copied. -/
def CopiesFrom (σ : Store) (root : MapRef) (n : Nat)
    (copy : CopyTable → MapRef → Option (MapRef × CopyTable)) : Prop :=
  ∀ t x, σ.Met root t.sources → n ≤ t.length → σ.Reaches root x →
    ∃ t', copy t x = some (σ.copyRef t'.sources x, t') ∧ σ.Meets root t [x] t'

section Values

variable {n : Nat} {copy : CopyTable → MapRef → Option (MapRef × CopyTable)}

mutual

/-- If mappings are copied, values are, and so are the items of lists. -/
theorem exists_copyValue (hcopy : σ.CopiesFrom root n copy) {t : CopyTable}
    (ht : σ.Met root t.sources) (hn : n ≤ t.length) :
    ∀ {v : Value}, (∀ y ∈ v.mapRefs, σ.Reaches root y) →
      ∃ t', copyValue copy t v = some (v.relabel (σ.copyRef t'.sources), t') ∧
        σ.Meets root t v.mapRefs t'
  | .map m, hrefs => by
    obtain ⟨t', hm, hmeets⟩ := hcopy t m ht hn (hrefs m (List.mem_singleton.2 rfl))
    refine ⟨t', ?_, hmeets⟩
    rw [copyValue, hm]
    rfl
  | .list items, hrefs => by
    obtain ⟨t', hitems, hmeets⟩ := exists_copyItems hcopy ht hn hrefs
    refine ⟨t', ?_, hmeets⟩
    rw [copyValue, hitems]
    rfl
  | .null, _ | .bool _, _ | .int _, _ | .float _, _ | .text _, _ | .dateTime _, _ | .uuid _, _
  | .enumeration _, _ | .object _, _ => ⟨t, rfl, meets_nil ht⟩

theorem exists_copyItems (hcopy : σ.CopiesFrom root n copy) {t : CopyTable}
    (ht : σ.Met root t.sources) (hn : n ≤ t.length) :
    ∀ {vs : List Value}, (∀ y ∈ Value.mapRefsIn vs, σ.Reaches root y) →
      ∃ t', copyItems copy t vs = some (Value.relabelItems (σ.copyRef t'.sources) vs, t') ∧
        σ.Meets root t (Value.mapRefsIn vs) t'
  | [], _ => ⟨t, rfl, meets_nil ht⟩
  | v :: rest, hrefs => by
    obtain ⟨t₁, hv, hfirst⟩ := exists_copyValue hcopy ht hn
      fun y hy => hrefs y (List.mem_append_left _ hy)
    obtain ⟨t₂, hrest, hsecond⟩ := exists_copyItems hcopy hfirst.met
      (Nat.le_trans hn hfirst.grows.length_le) fun y hy => hrefs y (List.mem_append_right _ hy)
    refine ⟨t₂, ?_, hfirst.trans hsecond⟩
    rw [copyItems, hv]
    simp only [Option.bind_eq_bind, Option.bind_some, hrest]
    rw [Value.relabelItems, Value.relabel_congr (hfirst.copyRef_eq hsecond.grows.prefix_sources)]
    rfl

end

/-- If mappings are copied, entries are put into the copy that is being filled, which nothing else
touches. -/
theorem exists_copyEntries (hcopy : σ.CopiesFrom root n copy) {i : Nat} {t : CopyTable}
    {es : List (String × Value)} (ht : σ.Met root t.sources) (hn : n ≤ t.length)
    (hi : i < t.length) (hrefs : ∀ y ∈ entryRefs es, σ.Reaches root y) :
    ∃ t', copyEntries copy i t es = some t' ∧
      σ.Meets root (t.refill i (fill (relabelEntries (σ.copyRef t'.sources) es)))
        (entryRefs es) t' := by
  induction es generalizing t with
  | nil =>
    refine ⟨t, rfl, ?_⟩
    have hsame : t.refill i (fill (relabelEntries (σ.copyRef t.sources) [])) = t := t.refill_id i
    rw [hsame]
    exact meets_nil ht
  | cons e rest ih =>
    have hsplit : entryRefs (e :: rest) = e.2.mapRefs ++ entryRefs rest := List.flatMap_cons
    rw [hsplit] at hrefs ⊢
    obtain ⟨t₁, hv, hfirst⟩ := exists_copyValue hcopy ht hn
      fun y hy => hrefs y (List.mem_append_left _ hy)
    let put : Dictionary → Dictionary := (·.put e.1 (e.2.relabel (σ.copyRef t₁.sources)))
    have hlength := hfirst.grows.length_le
    obtain ⟨t', hrest, hsecond⟩ := ih (t := t₁.refill i put)
      ((t₁.sources_refill i put).symm ▸ hfirst.met)
      (by rw [CopyTable.length_refill]; omega) (by rw [CopyTable.length_refill]; omega)
      fun y hy => hrefs y (List.mem_append_right _ hy)
    refine ⟨t', ?_, ?_⟩
    · rw [copyEntries, hv]
      exact hrest
    · -- the value refers to the copies that it will refer to in the end
      have hlater := hsecond.grows.prefix_sources
      rw [CopyTable.sources_refill, CopyTable.sources_refill] at hlater
      have hvalue := Value.relabel_congr (hfirst.copyRef_eq hlater)
      rw [CopyTable.refill_refill] at hsecond
      have hfill : fill (relabelEntries (σ.copyRef t'.sources) rest) ∘ put =
          fill (relabelEntries (σ.copyRef t'.sources) (e :: rest)) := by
        funext d
        simp only [put, Function.comp_apply, hvalue]
        rfl
      rw [hfill] at hsecond
      exact (hfirst.refill hi _).trans hsecond

end Values

/-! ## The recursion -/

theorem copyMapping_of_mem {t : CopyTable} {a : Nat} (h : .cell a ∈ t.sources) (fuel : Nat) :
    σ.copyMapping fuel t (.cell a) = some (σ.copyRef t.sources (.cell a), t) := by
  rw [copyMapping.eq_def, findIdx?_same, if_pos h]
  rfl

theorem copyMapping_of_notMem {t : CopyTable} {a : Nat} (h : .cell a ∉ t.sources) (fuel : Nat) :
    σ.copyMapping (fuel + 1) t (.cell a) =
      (copyEntries (σ.copyMapping fuel) t.length (t ++ [(.cell a, .empty .ignoreCase)])
        (σ.entries (.cell a))).map fun t' => (.cell (σ.mappings.size + t.length), t') := by
  rw [copyMapping, findIdx?_same, if_neg h, Option.map_eq_bind]
  rfl

theorem Met.concat {t : CopyTable} {x : MapRef} (h : σ.Met root t.sources)
    (hx : σ.Reaches root x) (hnew : x ∉ t.sources) (d : Dictionary) :
    σ.Met root (CopyTable.sources (t ++ [(x, d)])) := by
  have hsources : CopyTable.sources (t ++ [(x, d)]) = t.sources ++ [x] := List.map_append
  rw [hsources]
  refine ⟨List.nodup_append.2 ⟨h.nodup, List.nodup_singleton x, fun y hy z hz hyz => hnew ?_⟩,
    fun y hy => ?_⟩
  · rw [← List.mem_singleton.1 hz, ← hyz]
    exact hy
  · rcases List.mem_append.1 hy with hy | hy
    · exact h.reached y hy
    · rw [List.mem_singleton.1 hy]
      exact hx

/-- A mapping that was entered in the table is finished once its entries are copied: its copy stands
where it was entered, with the mappings behind it that were met on the way. -/
theorem Meets.finish {t t' : CopyTable} {x : MapRef} (hnew : x ∉ t.sources)
    (h : σ.Meets root (t ++ [(x, σ.copyOf t'.sources x)]) (entryRefs (σ.entries x)) t') :
    σ.copyRef t'.sources x = .cell (σ.mappings.size + t.length) ∧ σ.Meets root t [x] t' := by
  obtain ⟨added, hadded, hfinished⟩ := h.grows
  have hsources : t'.sources = t.sources ++ (x :: CopyTable.sources added) := by
    rw [hadded, List.append_assoc]
    exact List.map_append
  have hposition : t'.sources.idxOf x = t.length := by
    rw [hsources, List.idxOf_append_of_notMem hnew, List.idxOf_cons_self, Nat.add_zero]
    exact List.length_map _
  refine ⟨by rw [copyRef, hposition], h.met, ?_, fun y hy => ?_⟩
  · refine ⟨(x, σ.copyOf t'.sources x) :: added, ?_, List.forall_mem_cons.2 ⟨?_, hfinished⟩⟩
    · exact hadded.trans (List.append_assoc _ _ _)
    · exact ⟨fun y hy => h.mem y (refers_iff.1 hy), rfl⟩
  · rw [List.mem_singleton.1 hy, hsources]
    exact List.mem_append_right _ List.mem_cons_self

/-- Mappings are copied as long as there is fuel for all that have not been met. -/
theorem copiesFrom_copyMapping (hroot : σ.ReachesDictionaries root) (fuel : Nat) :
    σ.CopiesFrom root (σ.mappings.size - fuel) (σ.copyMapping fuel) := by
  induction fuel with
  | zero =>
    intro t x ht hn hx
    obtain ⟨a, d, rfl, -⟩ := hroot x hx
    by_cases hmem : .cell a ∈ t.sources
    · exact ⟨t, copyMapping_of_mem hmem 0, ht, growsTo_refl σ t, by simpa using hmem⟩
    · -- then there are more different mappings than the store has
      have hle := (ht.concat hx hmem default).length_le hroot
      rw [CopyTable.sources, List.length_map, List.length_append, List.length_singleton] at hle
      omega
  | succ fuel ih =>
    intro t x ht hn hx
    obtain ⟨a, d, rfl, -⟩ := hroot x hx
    by_cases hmem : .cell a ∈ t.sources
    · exact ⟨t, copyMapping_of_mem hmem _, ht, growsTo_refl σ t, by simpa using hmem⟩
    · have hlength : (t ++ [(MapRef.cell a, Dictionary.empty .ignoreCase)]).length =
          t.length + 1 := by
        rw [List.length_append, List.length_singleton]
      obtain ⟨t', hentries, hmeets⟩ := exists_copyEntries ih
        (ht.concat hx hmem (.empty .ignoreCase)) (i := t.length) (by omega) (by omega)
        fun y hy => hx.tail (refers_iff.2 hy)
      rw [CopyTable.refill_concat] at hmeets
      obtain ⟨hcopy, hmet⟩ := hmeets.finish hmem
      refine ⟨t', ?_, hmet⟩
      rw [copyMapping_of_notMem hmem, hentries, hcopy]
      rfl

theorem size_le_copyBound (σ : Store) : σ.mappings.size ≤ σ.copyBound := by
  have hone : 1 ≤ σ.referenceCount + 1 := Nat.le_add_left 1 _
  have hbound := Nat.mul_le_mul_left (σ.mappings.size + σ.nextTag + 1) hone
  rw [Nat.mul_one] at hbound
  exact Nat.le_trans (by omega) hbound

/-- Copying a mapping meets all that it reaches, and finishes a copy of each. -/
theorem exists_copyMapping (hroot : σ.ReachesDictionaries root) :
    ∃ met, σ.copyMapping σ.copyBound [] root =
        some (σ.copyRef met root, met.map fun x => (x, σ.copyOf met x)) ∧
      ∀ y, y ∈ met ↔ σ.Reaches root y := by
  have hstart : σ.Met root (CopyTable.sources []) :=
    ⟨List.nodup_nil, fun _ hy => absurd hy List.not_mem_nil⟩
  have hroom : σ.mappings.size - σ.copyBound ≤ ([] : CopyTable).length :=
    Nat.le_of_eq (Nat.sub_eq_zero_of_le σ.size_le_copyBound)
  obtain ⟨t, hcopy, hmeets⟩ := copiesFrom_copyMapping hroot _ [] root hstart hroom .refl
  obtain ⟨added, hadded, hfinished⟩ := hmeets.grows
  rw [List.nil_append] at hadded
  subst hadded
  have htable : t = t.sources.map fun x => (x, σ.copyOf t.sources x) := by
    rw [CopyTable.sources, List.map_map]
    exact (List.map_id t).symm.trans (List.map_congr_left fun e he =>
      Prod.ext rfl (hfinished e he).copy)
  refine ⟨t.sources, by rw [← htable]; exact hcopy, fun y => ⟨hmeets.met.reached y, fun hy => ?_⟩⟩
  induction hy with
  | refl => exact hmeets.mem root (List.mem_singleton.2 rfl)
  | tail _ hstep ih =>
    obtain ⟨e, he, rfl⟩ := List.mem_map.1 ih
    exact (hfinished e he).refs _ hstep

end Store

end DuckTyping
