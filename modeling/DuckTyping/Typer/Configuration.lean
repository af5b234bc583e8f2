import DuckTyping.Plan.Options
import DuckTyping.Toml.Document

set_option autoImplicit false

/-!
# Options in configuration documents

The table `duck` of a document sets the options by name; other tables and other keys do not matter.
An array in its place gives the options in order. What is not given keeps its default.
-/

namespace DuckTyping

/-- Why a configuration cannot be used. -/
inductive ConfigError where
  /-- the document is malformed, or an option is no truth value -/
  | unreadable
  deriving DecidableEq, Repr, Inhabited

namespace Options

open Toml

/-- A truth value, or the default where nothing is given. -/
def flag? (otherwise : Bool) : Option Node → Option Bool
  | none => some otherwise
  | some (.boolean b) => some b
  | some _ => none

/-- Options from what is given for each of them. -/
def ofFlags? (fuzzy allowConversion memoize : Option Node) : Option Options := do
  let defaults : Options := {}
  return {
    fuzzy := ← flag? defaults.fuzzy fuzzy
    allowConversion := ← flag? defaults.allowConversion allowConversion
    memoizeObjectPlans := ← flag? defaults.memoizeObjectPlans memoize }

/-- Options from what stands under `duck`. A time has none of the keys. -/
def ofNode? : Node → Option Options
  | .table _ entries =>
    ofFlags? (find? entries "fuzzy") (find? entries "allow-conversion")
      (find? entries "memoize-object-plans")
  | .array items => ofFlags? items[0]? items[1]? items[2]?
  | .time => some {}
  | _ => none

/-- Options from a document. -/
def ofDocument (document : String) : Except ConfigError Options :=
  match parse? document with
  | none => .error .unreadable
  | some entries =>
    match find? entries "duck" with
    | none => .ok {}
    | some node =>
      match ofNode? node with
      | some options => .ok options
      | none => .error .unreadable

end Options

end DuckTyping
