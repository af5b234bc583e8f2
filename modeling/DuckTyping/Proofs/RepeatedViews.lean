import DuckTyping.Proofs.ViewStack

set_option autoImplicit false

/-!
# Views of views

A view around a view of the same comparison shows nothing that the inner one does not. It leaves
every look-up to the inner view, and what that view hands out is seen through the comparison
already. A key under which something is written is resolved twice, but the key that is found the
first time is stored literally, so it is found again. None of this asks how the mapping below
compares keys, what it says about that, or what it makes of a write.
-/

namespace DuckTyping

/-- What may be asked of a mapping that is seen through a view. -/
inductive ViewCall where
  | get (key : String)
  | lookUp (key : String)
  | resolveKey (key : String)
  | findKey (key : String) (comparison : KeyComparison)
  | contains (key : String)
  | keys
  | size
  | entries
  | insert (key : String) (v : Value)

/-- What a view answers. -/
inductive ViewAnswer where
  | value (v : Option Value)
  | key (stored : Option String)
  | held (b : Bool)
  | keys (keys : List String)
  | size (n : Nat)
  | entries (entries : List (String × Value))
  | inserted (outcome : Except HostError Unit)

namespace View

/-- Ask a view something. Only a write changes the store. -/
def perform (v : View) (σ : Store) : ViewCall → ViewAnswer × Store
  | .get key => (.value (σ.get? v.ref key), σ)
  | .lookUp key => (.value (v.lookUp? σ key), σ)
  | .resolveKey key => (.key (v.resolveKey? σ key), σ)
  | .findKey key comparison => (.key (σ.findKey? v.ref key comparison), σ)
  | .contains key => (.held (σ.contains v.ref key), σ)
  | .keys => (.keys (σ.keys v.ref), σ)
  | .size => (.size (σ.size v.ref), σ)
  | .entries => (.entries (σ.entries v.ref), σ)
  | .insert key x =>
    let (outcome, after) := σ.put v.ref key x
    (.inserted outcome, after)

/-- Ask one thing after another, and collect the answers. -/
def performAll (v : View) (σ : Store) : List ViewCall → List ViewAnswer × Store
  | [] => ([], σ)
  | call :: rest =>
    let (answer, next) := v.perform σ call
    let (answers, final) := v.performAll next rest
    (answer :: answers, final)

end View

namespace Store

variable {σ : Store} {m : MapRef} {c : KeyComparison}

/-! ## Keys that are found -/

theorem findKey?_ordinal_of_mem {key : String} (h : key ∈ σ.keys m) :
    σ.findKey? m key .ordinal = some key := by
  rw [findKey?_eq_find?_keys, find?_ordinal, if_pos h]

theorem mem_keys_of_resolveKey? {key stored : String}
    (h : σ.resolveKey? m c key = some stored) : stored ∈ σ.keys m := by
  unfold resolveKey? at h
  split at h
  · rename_i found hfound
    cases h
    rw [findKey?_eq_find?_keys] at hfound
    exact List.mem_of_find?_eq_some hfound
  · split at h
    · cases h
    · rw [findKey?_eq_find?_keys] at h
      exact List.mem_of_find?_eq_some h

/-- The key that is found is found again under its own spelling. -/
theorem resolveKey?_of_resolveKey? {key stored : String}
    (h : σ.resolveKey? m c key = some stored) : σ.resolveKey? m c stored = some stored := by
  rw [resolveKey?, findKey?_ordinal_of_mem (mem_keys_of_resolveKey? h)]

/-- So to resolve the key that is written once more leads to the same key. -/
theorem resolveKey?_getD_twice (σ : Store) (m : MapRef) (c : KeyComparison) (key : String) :
    (σ.resolveKey? m c ((σ.resolveKey? m c key).getD key)).getD
        ((σ.resolveKey? m c key).getD key) = (σ.resolveKey? m c key).getD key := by
  cases hfound : σ.resolveKey? m c key with
  | none => rw [Option.getD_none, hfound, Option.getD_none]
  | some stored => rw [Option.getD_some, resolveKey?_of_resolveKey? hfound, Option.getD_some]

/-! ## Two views in place of one -/

/-- What a view hands out is handed on as it is by a view of the same comparison. -/
theorem rewrap_rewrap (σ : Store) (c : KeyComparison) (v : Value) :
    σ.rewrap c (σ.rewrap c v) = σ.rewrap c v := by
  cases v with
  | map nested =>
    by_cases hdeclares : σ.comparison? nested = some c
    · have hself : σ.rewrap c (.map nested) = .map nested := if_pos hdeclares
      rw [hself, hself]
    · have hview : σ.rewrap c (.map nested) = .map (.view none nested c) := if_neg hdeclares
      have hdeclared : σ.comparison? (.view none nested c) = some c := rfl
      rw [hview, rewrap, if_pos hdeclared]
  | _ => rfl

theorem get?_view_view (σ : Store) (outer tag : Option Nat) (m : MapRef) (c : KeyComparison)
    (key : String) :
    σ.get? (.view outer (.view tag m c) c) key = σ.get? (.view tag m c) key := by
  have houter : σ.get? (.view outer (.view tag m c) c) key =
      (σ.get? (.view tag m c) key).map (σ.rewrap c) := by
    rw [get?, comparison?, if_pos rfl]
  have htwice : σ.rewrap c ∘ σ.rewrap c = σ.rewrap c := funext (σ.rewrap_rewrap c)
  rw [houter, get?, Option.map_map, htwice]

theorem put_view_view (σ : Store) (outer tag : Option Nat) (m : MapRef) (c : KeyComparison)
    (key : String) (v : Value) :
    σ.put (.view outer (.view tag m c) c) key v = σ.put (.view tag m c) key v := by
  have hresolve : σ.resolveKey? (.view tag m c) c = σ.resolveKey? m c := rfl
  simp only [put]
  rw [hresolve, resolveKey?_getD_twice]

end Store

namespace View

/-- Whatever is asked, a view of a view answers like the inner one, and leaves the same store. -/
theorem perform_view_view (m : MapRef) (c : KeyComparison) (tag : Option Nat) (σ : Store)
    (call : ViewCall) :
    (View.mk (.view tag m c) c).perform σ call = (View.mk m c).perform σ call := by
  have hget : ∀ key, σ.get? (View.mk (.view tag m c) c).ref key = σ.get? (View.mk m c).ref key :=
    fun key => (σ.get?_view_view none tag m c key).trans rfl
  have hput : ∀ key v, σ.put (View.mk (.view tag m c) c).ref key v =
      σ.put (View.mk m c).ref key v :=
    fun key v => (σ.put_view_view none tag m c key v).trans rfl
  cases call with
  | get key => exact congrArg (fun v => (ViewAnswer.value v, σ)) (hget key)
  | lookUp key => exact congrArg (fun v => (ViewAnswer.value v, σ)) (hget key)
  | entries =>
    have hentries : σ.entries (View.mk (.view tag m c) c).ref = σ.entries (View.mk m c).ref := by
      simp only [ref] at hget ⊢
      simp only [Store.entries, Store.keys, hget]
    exact congrArg (fun es => (ViewAnswer.entries es, σ)) hentries
  | insert key v => simp only [perform, hput]
  | resolveKey key => rfl
  | findKey key comparison => rfl
  | contains key => rfl
  | keys => rfl
  | size => rfl

/-- So do any number of questions and writes, one after another. -/
theorem performAll_view_view (m : MapRef) (c : KeyComparison) (tag : Option Nat) (σ : Store)
    (calls : List ViewCall) :
    (View.mk (.view tag m c) c).performAll σ calls = (View.mk m c).performAll σ calls := by
  induction calls generalizing σ with
  | nil => rfl
  | cons call rest ih =>
    simp only [performAll]
    rw [perform_view_view, ih]

/-- **Wrapping twice is wrapping once.** A view of any mapping, kept under any tag and wrapped again
with the same sensitivity, gives the answers of the first view in every run of questions and writes
and leaves the store that the first view would leave. Wrapped with no sensitivity given, it keeps
its own at any time. -/
theorem wrap_wrap_performs_alike (σ : Store) (m : MapRef) (sensitive : Bool) (tag : Option Nat)
    (calls : List ViewCall) :
    let once := σ.wrap m (some sensitive)
    let kept := MapRef.view tag once.inner once.comparison
    (σ.wrap kept (some sensitive)).performAll σ calls = once.performAll σ calls ∧
      ∀ later : Store, (later.wrap kept none).isCaseSensitive = once.isCaseSensitive := by
  intro once kept
  refine ⟨performAll_view_view m (.ofCaseSensitive sensitive) tag σ calls, fun later => ?_⟩
  simp [isCaseSensitive, Store.wrap, kept, once]

/-- A host that appends whatever is written and then says that it is full, seen through two views:
the entry is there, behind the one that was stored first. -/
example :
    let host : ForeignMapping :=
      { typeName := "Log", sameKey := Text.eqIgnoreAsciiCase, declared := none, readOnly := false
        refusal := none, entries := [("Id", .int 1)]
        write := fun entries key v => (.error (.invocation key "full"), entries ++ [(key, v)]) }
    let σ : Store := ⟨#[.foreign host], #[], 0⟩
    let twice := σ.wrap (σ.wrap (.cell 0) (some false)).ref (some false)
    (twice.performAll σ [.insert "ID" (.int 2), .size, .lookUp "id"]).1 =
      [.inserted (.error (.invocation "Id" "full")), .size 2, .value (some (.int 1))] := by
  with_unfolding_all rfl

end View

end DuckTyping
