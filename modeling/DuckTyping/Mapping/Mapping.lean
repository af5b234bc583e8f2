import DuckTyping.Mapping.Dictionary
import DuckTyping.Mapping.ForeignMapping

set_option autoImplicit false

/-!
# Mappings

What can be asked of a mapping, be it a dictionary or a foreign one. A dictionary answers from its
index; a foreign mapping answers every question through its keys and its look-up.
-/

namespace DuckTyping

/-- A mapping with text keys. -/
inductive Mapping where
  | dictionary (d : Dictionary)
  | foreign (m : ForeignMapping)

namespace Mapping

instance : Inhabited Mapping := ⟨.dictionary default⟩

/-- The comparison of keys, if the mapping declares one. -/
def comparison? : Mapping → Option KeyComparison
  | .dictionary d => some d.comparison
  | .foreign m => m.declared

/-- The keys in the order of the entries. -/
def keys : Mapping → List String
  | .dictionary d => d.keys
  | .foreign m => m.keys

/-- The value that the mapping's own comparison finds. -/
def get? : Mapping → String → Option Value
  | .dictionary d => d.get?
  | .foreign m => m.get?

/-- What inserting or replacing a value returns, and the mapping that it leaves. A dictionary that
reports a failure is as it was. -/
def insert : Mapping → String → Value → Except HostError Unit × Mapping
  | .dictionary d, key, v =>
    match d.insert key v with
    | .ok after => (.ok (), .dictionary after)
    | .error e => (.error e, .dictionary d)
  | .foreign m, key, v =>
    let (outcome, after) := m.insert key v
    (outcome, .foreign after)

/-- The mapping says that it refuses writes. -/
def isReadOnly : Mapping → Bool
  | .dictionary d => d.readOnly
  | .foreign m => m.readOnly

/-- The mapping's own comparison finds a value. -/
def contains : Mapping → String → Bool
  | .dictionary d, key => d.contains key
  | .foreign m, key => (m.get? key).isSome

/-- The stored spelling of the first key that matches under `comparison`. -/
def findKey? : Mapping → String → KeyComparison → Option String
  | .dictionary d, key, comparison => d.findKey? key comparison
  | .foreign m, key, comparison => m.keys.find? fun stored => comparison.keysMatch stored key

/-- The number of entries. -/
def size : Mapping → Nat
  | .dictionary d => d.size
  | .foreign m => m.keys.length

/-- The entries in order; a foreign mapping is asked for the value of each of its keys. -/
def entries : Mapping → List (String × Value)
  | .dictionary d => d.entries.toList
  | .foreign m => m.keys.filterMap fun key => (m.get? key).map fun v => (key, v)

end Mapping

end DuckTyping
