import DuckTyping.Conversion.Registry

set_option autoImplicit false

/-!
# Conversions given by a table

A host may list what a conversion does: which value becomes which, what becomes of all others, or
why they are refused.
-/

namespace DuckTyping.Conversion

/-- A conversion given by cases. -/
structure Rule where
  table : List (Value × Value)
  otherwise : Option Value
  refusal : Option String

/-- The result for the first listed value that is equal, else the common result, else a refusal. -/
def Rule.apply (rule : Rule) : Conversion := fun v target =>
  match rule.table.find? fun (input, _) => input.same v with
  | some (_, result) => .ok result
  | none =>
    match rule.otherwise with
    | some result => .ok result
    | none =>
      .error (.unparseable "custom" v.valueType target (.other (rule.refusal.getD "no entry")))

end DuckTyping.Conversion
