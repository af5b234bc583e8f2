import DuckTyping.Value.Refusal

set_option autoImplicit false

/-!
# Foreign mappings

A mapping that a host brings along. It has a rule of its own for when two keys are the same, which
may or may not agree with the comparison that it declares, if it declares one. It lists its entries
as they are; everything else it answers by looking keys up. What becomes of the entries when
something is written is the host's own affair.
-/

namespace DuckTyping

/-- Replace the value of the first entry whose key passes the test, or append an entry. -/
def replaceOrAppend (sameKey : String → Bool) (key : String) (v : Value) :
    List (String × Value) → List (String × Value)
  | [] => [(key, v)]
  | e :: rest =>
    if sameKey e.1 then (e.1, v) :: rest else e :: replaceOrAppend sameKey key v rest

/-- A mapping with a rule of its own. `sameKey stored key` says that a stored key answers to `key`.
`write` is what the host makes of its entries when a value is written under a key, and what it says
about it; it may change them and report a failure. Unless told otherwise it replaces or appends. A
host with a `refusal` turns down every write before that. -/
structure ForeignMapping where
  typeName : String
  sameKey : String → String → Bool
  declared : Option KeyComparison
  readOnly : Bool
  refusal : Option Refusal
  entries : List (String × Value)
  write : List (String × Value) → String → Value → Except HostError Unit × List (String × Value) :=
    fun entries key v => (.ok (), replaceOrAppend (sameKey · key) key v entries)

namespace ForeignMapping

/-- The stored keys, repetitions included. -/
def keys (m : ForeignMapping) : List String := m.entries.map (·.1)

/-- The value of the first entry whose key is the same. -/
def get? (m : ForeignMapping) (key : String) : Option Value :=
  (m.entries.find? fun e => m.sameKey e.1 key).map (·.2)

/-- What a write returns, and the mapping that it leaves. -/
def insert (m : ForeignMapping) (key : String) (v : Value) :
    Except HostError Unit × ForeignMapping :=
  match m.refusal with
  | some refusal => (.error (refusal.error m.typeName key), m)
  | none =>
    let (outcome, entries) := m.write m.entries key v
    (outcome, { m with entries })

end ForeignMapping

end DuckTyping
