import DuckTyping.Store.Reading

set_option autoImplicit false

/-!
# Copies that ignore case

A mapping, with every mapping that can be reached from it through entries and lists, is copied into
new dictionaries that ignore case. Each source mapping has one copy, so shared mappings stay shared
and cycles stay cycles.

The copies stand behind the mappings that the store has already, in the order in which their sources
are met. Copying follows the entries of a mapping into the mappings that they lead to, and a mapping
is entered in the table of copies before that: what leads back to it finds its copy there, though it
is not filled yet. Mappings that a view makes while it is read are each met anew.
-/

namespace DuckTyping

/-- The mappings that were met, each with its copy as far as that is filled. -/
abbrev CopyTable : Type := List (MapRef × Dictionary)

/-- A table whose copy at position `i` is changed. -/
def CopyTable.refill (table : CopyTable) (i : Nat) (f : Dictionary → Dictionary) : CopyTable :=
  table.modify i fun e => (e.1, f e.2)

namespace Store

section Values

variable (copy : CopyTable → MapRef → Option (MapRef × CopyTable))

mutual

/-- A value with every mapping in it replaced by what `copy` makes of it. -/
def copyValue (table : CopyTable) : Value → Option (Value × CopyTable)
  | .map m => do
    let (m, table) ← copy table m
    return (.map m, table)
  | .list items => do
    let (items, table) ← copyItems table items
    return (.list items, table)
  | v => some (v, table)

def copyItems (table : CopyTable) : List Value → Option (List Value × CopyTable)
  | [] => some ([], table)
  | v :: rest => do
    let (v, table) ← copyValue table v
    let (rest, table) ← copyItems table rest
    return (v :: rest, table)

end

/-- Copy entries one after another into the copy at position `i` of the table. -/
def copyEntries (i : Nat) (table : CopyTable) : List (String × Value) → Option CopyTable
  | [] => some table
  | (key, v) :: rest => do
    let (v, table) ← copyValue copy table v
    copyEntries i (table.refill i (·.put key v)) rest

end Values

/-- The copy of a mapping: the one in the table, or a new one that is entered there and then filled.
There is no answer where mappings lie in one another more than `fuel` deep. -/
def copyMapping (σ : Store) (fuel : Nat) (table : CopyTable) (m : MapRef) :
    Option (MapRef × CopyTable) :=
  match table.findIdx? fun e => m.same e.1 with
  | some i => some (.cell (σ.mappings.size + i), table)
  | none =>
    match fuel with
    | 0 => none
    | fuel + 1 => do
      let i := table.length
      let table := table ++ [(m, Dictionary.empty .ignoreCase)]
      let table ← copyEntries (σ.copyMapping fuel) i table (σ.entries m)
      return (.cell (σ.mappings.size + i), table)

mutual

/-- The number of mappings in a value. -/
def countMaps : Value → Nat
  | .map _ => 1
  | .list items => countMapsIn items
  | _ => 0

def countMapsIn : List Value → Nat
  | [] => 0
  | v :: rest => countMaps v + countMapsIn rest

end

/-- The number of references that the entries of all mappings hold. -/
def referenceCount (σ : Store) : Nat :=
  σ.mappings.foldl (fun n m => m.entries.foldl (fun n e => n + countMaps e.2) n) 0

/-- A bound on how deep mappings lie in one another: all cells and kept views, and for each of them
a view for every reference in the store. -/
def copyBound (σ : Store) : Nat :=
  (σ.mappings.size + σ.nextTag + 1) * (σ.referenceCount + 1)

/-- Copy a mapping and all that it reaches into dictionaries that ignore case. There is no answer
when reading views would go on to make new mappings without an end. -/
def toIgnoreCase? (σ : Store) (m : MapRef) : Option (MapRef × Store) := do
  let (copy, table) ← σ.copyMapping σ.copyBound [] m
  let copies := table.map fun e => Mapping.dictionary e.2
  return (copy, { σ with mappings := σ.mappings ++ copies.toArray })

end Store

end DuckTyping
