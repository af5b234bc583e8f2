import DuckTyping.Mapping.KeyComparison

set_option autoImplicit false

/-!
# References to mappings and objects

A value never holds a mapping or an object itself, only a reference to one in a store. A mapping is
referred to by the address of its cell, possibly through views that look at it with a comparison of
their own. A view is known by its tag. Reading a nested mapping through a view makes a view that has
no tag yet: it gets one when it is kept, and until then it is like no other mapping.
-/

namespace DuckTyping

/-- A reference to a mapping. -/
inductive MapRef where
  /-- the mapping stored at an address -/
  | cell (address : Nat)
  /-- another mapping seen through a comparison of keys -/
  | view (tag : Option Nat) (inner : MapRef) (comparison : KeyComparison)
  deriving DecidableEq, Repr, Inhabited

namespace MapRef

/-- Both refer to the very same mapping. -/
def same : MapRef → MapRef → Bool
  | .cell a, .cell b => a == b
  | .view (some s) _ _, .view (some t) _ _ => s == t
  | _, _ => false

end MapRef

/-- A reference to an object: its address in a store, and its type, which never changes. -/
structure ObjectRef where
  typeName : String
  address : Nat
  deriving DecidableEq, Repr, Inhabited

/-- Both refer to the very same object. -/
def ObjectRef.same (a b : ObjectRef) : Bool := a.address == b.address

end DuckTyping
