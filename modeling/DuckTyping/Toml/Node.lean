set_option autoImplicit false

/-!
# Trees of a configuration document

A document is a tree of tables. Which table may still be extended depends on how it came about: one
opened by a header takes no keys from elsewhere, one that only stands on the way to a header may get
a header of its own, one that stands on the way to a dotted key may be extended by dotted keys, and
one written inline is complete.
-/

namespace DuckTyping.Toml

/-- How a table came about. -/
inductive TableOrigin where
  | header
  | wayToHeader
  | wayToKey
  | inline
  deriving DecidableEq, Repr, Inhabited

/-- A value of a document. Texts, numbers and times are not kept apart further. -/
inductive Node where
  | boolean (b : Bool)
  | scalar
  | time
  | array (items : List Node)
  | table (origin : TableOrigin) (entries : List (String × Node))
  /-- tables under a header in double brackets, the latest first -/
  | tables (items : List (List (String × Node)))

/-- The keys of a table with their values. -/
abbrev Entries : Type := List (String × Node)

/-- Change, or add, what stands under a key. -/
def alter (key : String) (f : Option Node → Option Node) : Entries → Option Entries
  | [] => (f none).map fun n => [(key, n)]
  | (k, n) :: rest =>
    if k = key then (f (some n)).map fun n => (k, n) :: rest
    else (alter key f rest).map ((k, n) :: ·)

/-- Put a value under a dotted key. No key may be there already, and every table on the way must be
open to dotted keys. -/
def put (path : List String) (key : String) (v : Node) (entries : Entries) : Option Entries :=
  match path with
  | [] =>
    alter key (fun
      | none => some v
      | some _ => none) entries
  | step :: rest =>
    alter step (fun
      | none => (put rest key v []).map (.table .wayToKey)
      | some (.table .wayToKey inner) => (put rest key v inner).map (.table .wayToKey)
      | some (.table .wayToHeader inner) =>
        if rest.isEmpty then none else (put rest key v inner).map (.table .wayToHeader)
      | some (.tables (last :: earlier)) =>
        if rest.isEmpty then none else (put rest key v last).map fun l => .tables (l :: earlier)
      | some _ => none) entries

/-- Follow the path of a header and change what stands at its end. -/
def follow (path : List String) (last : Option Node → Option Node) (entries : Entries) :
    Option Entries :=
  match path with
  | [] => none
  | [key] => alter key last entries
  | step :: rest =>
    alter step (fun
      | none => (follow rest last []).map (.table .wayToHeader)
      | some (.table .inline _) => none
      | some (.table origin inner) => (follow rest last inner).map (.table origin)
      | some (.tables (latest :: earlier)) =>
        (follow rest last latest).map fun l => .tables (l :: earlier)
      | some _ => none) entries

/-- Open the table of a header. It must be new, or stand on the way to another header. -/
def openTable (path : List String) (entries : Entries) : Option Entries :=
  follow path (fun
    | none => some (.table .header [])
    | some (.table .wayToHeader inner) => some (.table .header inner)
    | some _ => none) entries

/-- Open one more table of a header in double brackets. -/
def openArrayTable (path : List String) (entries : Entries) : Option Entries :=
  follow path (fun
    | none => some (.tables [[]])
    | some (.tables items) => some (.tables ([] :: items))
    | some _ => none) entries

/-- Put a value under a dotted key of the table whose header was read last. -/
def putIn (header path : List String) (key : String) (v : Node) (entries : Entries) :
    Option Entries :=
  if header.isEmpty then put path key v entries
  else
    follow header (fun
      | some (.table origin inner) => (put path key v inner).map (.table origin)
      | some (.tables (latest :: earlier)) =>
        (put path key v latest).map fun l => .tables (l :: earlier)
      | _ => none) entries

/-- What stands under a key. -/
def find? (entries : Entries) (key : String) : Option Node :=
  (entries.find? (·.1 == key)).map (·.2)

end DuckTyping.Toml
