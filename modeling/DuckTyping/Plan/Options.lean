set_option autoImplicit false

/-!
# Options

How sources are matched against shapes.
-/

namespace DuckTyping

/-- The choices that govern matching. -/
structure Options where
  /-- match member names ignoring case, whatever a mapping's own comparison is -/
  fuzzy : Bool := false
  /-- bridge differing types through registered converters -/
  allowConversion : Bool := true
  /-- use a plan again for objects of the same type and schema -/
  memoizeObjectPlans : Bool := true
  deriving DecidableEq, Repr, Inhabited

namespace Options

/-- The word for a truth value. -/
def word (b : Bool) : String := if b then "true" else "false"

/-- The diagnostic form of the options. -/
def summary (o : Options) : String :=
  "DuckOptions \x7b fuzzy: " ++ word o.fuzzy ++ ", allow_conversion: " ++ word o.allowConversion ++
    ", memoize_object_plans: " ++ word o.memoizeObjectPlans ++ " \x7d"

/-- The options as lines of a configuration document. -/
def render (o : Options) : String :=
  "fuzzy = " ++ word o.fuzzy ++ "\nallow-conversion = " ++ word o.allowConversion ++
    "\nmemoize-object-plans = " ++ word o.memoizeObjectPlans ++ "\n"

end Options

end DuckTyping
