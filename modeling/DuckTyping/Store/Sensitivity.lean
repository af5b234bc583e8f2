import DuckTyping.Store.Reading

set_option autoImplicit false

/-!
# Which comparison a mapping applies

A mapping that declares a comparison is believed. Of any other it is found out by asking: if it
answers to a key in other case that it does not store, it ignores case. Nothing can be learned from
an empty mapping; it counts as one that ignores case.
-/

namespace DuckTyping

namespace Store

/-- Asking for this variant of a key shows that the mapping ignores case. -/
def betrays (σ : Store) (m : MapRef) (keys : List String) (key variant : String) : Bool :=
  variant != key && !keys.contains variant && σ.contains m variant

/-- The mapping answers to no stored key in lower or upper case, unless it stores that too. -/
def inferredCaseSensitive (σ : Store) (m : MapRef) : Bool :=
  let keys := σ.keys m
  !keys.isEmpty && !keys.any fun key =>
    σ.betrays m keys key (Text.lower key) || σ.betrays m keys key (Text.upper key)

/-- The mapping distinguishes keys that differ in case. -/
def isCaseSensitive (σ : Store) (m : MapRef) : Bool :=
  match σ.comparison? m with
  | some comparison => comparison.isCaseSensitive
  | none => σ.inferredCaseSensitive m

/-- A view of a mapping with a given sensitivity, or with the mapping's own. -/
def wrap (σ : Store) (m : MapRef) (sensitive : Option Bool) : View :=
  ⟨m, .ofCaseSensitive (sensitive.getD (σ.isCaseSensitive m))⟩

@[simp] theorem isCaseSensitive_view (σ : Store) (tag : Option Nat) (m : MapRef)
    (c : KeyComparison) : σ.isCaseSensitive (.view tag m c) = c.isCaseSensitive := rfl

end Store

end DuckTyping
