import DuckTyping.Store.Store

set_option autoImplicit false

/-!
# Reading and writing mappings

What a reference answers. A reference to a cell asks the mapping in it. A view looks a key up under
its own comparison: it prefers a key stored literally, and otherwise takes the first stored key that
matches; where the mapping behind it declares the very comparison of the view, that mapping's own
look-up serves. Mappings read through a view come back seen through a view of the same comparison,
unless they declare it themselves. A write through a view goes to the stored key that the view
finds, or adds the key as it is.
-/

namespace DuckTyping

namespace Store

/-- The comparison that a mapping declares. -/
def comparison? (σ : Store) : MapRef → Option KeyComparison
  | .cell address => (σ.mapping address).comparison?
  | .view _ _ comparison => some comparison

/-- The keys of a mapping in order. -/
def keys (σ : Store) : MapRef → List String
  | .cell address => (σ.mapping address).keys
  | .view _ inner _ => σ.keys inner

/-- The number of entries of a mapping. -/
def size (σ : Store) : MapRef → Nat
  | .cell address => (σ.mapping address).size
  | .view _ inner _ => σ.size inner

/-- A mapping says that it refuses writes. -/
def isReadOnly (σ : Store) : MapRef → Bool
  | .cell address => (σ.mapping address).isReadOnly
  | .view _ inner _ => σ.isReadOnly inner

/-- The stored spelling of the first key that matches under `comparison`. -/
def findKey? (σ : Store) : MapRef → String → KeyComparison → Option String
  | .cell address, key, comparison => (σ.mapping address).findKey? key comparison
  | .view _ inner _, key, comparison => σ.findKey? inner key comparison

/-- The stored key that a view of `inner` finds: the key itself if it is stored, else, if the view
ignores case, the first that matches. -/
def resolveKey? (σ : Store) (inner : MapRef) (comparison : KeyComparison) (key : String) :
    Option String :=
  match σ.findKey? inner key .ordinal with
  | some stored => some stored
  | none => if comparison.isCaseSensitive then none else σ.findKey? inner key comparison

/-- A value as it is seen through a view: mappings are seen through the same comparison. -/
def rewrap (σ : Store) (comparison : KeyComparison) : Value → Value
  | .map nested =>
    if σ.comparison? nested = some comparison then .map nested
    else .map (.view none nested comparison)
  | v => v

/-- The value that a mapping has under a key. -/
def get? (σ : Store) : MapRef → String → Option Value
  | .cell address, key => (σ.mapping address).get? key
  | .view _ inner comparison, key =>
    let found :=
      if σ.comparison? inner = some comparison then σ.get? inner key
      else (σ.resolveKey? inner comparison key).bind fun stored => σ.get? inner stored
    found.map (σ.rewrap comparison)

/-- A mapping has the key. -/
def contains (σ : Store) : MapRef → String → Bool
  | .cell address, key => (σ.mapping address).contains key
  | .view _ inner comparison, key => (σ.resolveKey? inner comparison key).isSome

/-- The entries of a mapping in order; a view is asked for the value of each key. -/
def entries (σ : Store) : MapRef → List (String × Value)
  | .cell address => (σ.mapping address).entries
  | .view tag inner comparison =>
    (σ.keys inner).filterMap fun key =>
      (σ.get? (.view tag inner comparison) key).map fun v => (key, v)

/-- What inserting or replacing a value returns, and the store that it leaves. -/
def put (σ : Store) : MapRef → String → Value → Except HostError Unit × Store
  | .cell address, key, v =>
    let (outcome, after) := (σ.mapping address).insert key v
    (outcome, σ.setMapping address after)
  | .view _ inner comparison, key, v =>
    σ.put inner ((σ.resolveKey? inner comparison key).getD key) v

/-- The store after a value was inserted or replaced, if that succeeds. -/
def insert (σ : Store) (m : MapRef) (key : String) (v : Value) : Except HostError Store :=
  let (outcome, after) := σ.put m key v
  outcome.map fun _ => after

theorem put_dictionary {σ : Store} {address : Nat} {d : Dictionary}
    (hd : σ.mapping address = .dictionary d) (key : String) (v : Value) :
    σ.put (.cell address) key v =
      match d.insert key v with
      | .ok after => (.ok (), σ.setMapping address (.dictionary after))
      | .error e => (.error e, σ) := by
  rw [put, hd, Mapping.insert]
  cases d.insert key v with
  | ok after => rfl
  | error e => exact congrArg (Prod.mk _) (hd ▸ σ.setMapping_mapping address)

theorem insert_dictionary {σ : Store} {address : Nat} {d : Dictionary}
    (hd : σ.mapping address = .dictionary d) (key : String) (v : Value) :
    σ.insert (.cell address) key v =
      (d.insert key v).map fun after => σ.setMapping address (.dictionary after) := by
  rw [insert, put_dictionary hd]
  cases d.insert key v <;> rfl

/-- The dictionary that a reference leads to directly. -/
def dictionary? (σ : Store) : MapRef → Option (Nat × Dictionary)
  | .cell address =>
    match σ.mapping address with
    | .dictionary d => some (address, d)
    | .foreign _ => none
  | .view _ _ _ => none

end Store

/-- A mapping seen through a comparison of keys. -/
structure View where
  inner : MapRef
  comparison : KeyComparison
  deriving DecidableEq, Repr, Inhabited

namespace View

/-- The view as a mapping that has not been kept. -/
def ref (v : View) : MapRef := .view none v.inner v.comparison

/-- Lookups through the view distinguish case. -/
def isCaseSensitive (v : View) : Bool := v.comparison.isCaseSensitive

/-- The key as it is stored in the mapping behind the view. -/
def resolveKey? (σ : Store) (v : View) (key : String) : Option String :=
  σ.resolveKey? v.inner v.comparison key

/-- The value that the view finds. -/
def lookUp? (σ : Store) (v : View) (key : String) : Option Value := σ.get? v.ref key

/-- The diagnostic form of a view. -/
def summary (σ : Store) (v : View) : String :=
  "CaseAwareMapping \x7b comparison: " ++ v.comparison.summary ++ ", keys: " ++
    Text.quotedList (σ.keys v.inner) ++ " \x7d"

end View

end DuckTyping
