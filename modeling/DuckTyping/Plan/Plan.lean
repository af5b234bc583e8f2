import DuckTyping.Types.Sameness

set_option autoImplicit false

/-!
# Plans

A plan says for each member of a shape how a source satisfies it, or why it does not. A plan without
an unresolved member can be put to use.
-/

namespace DuckTyping

/-- Why a member is not satisfied. -/
inductive UnresolvedReason where
  | missing
  /-- the source has another type, which does not convert -/
  | typeMismatch (found : ValueType)
  | signatureMismatch (found : MethodSignature)
  /-- a property where a method is wanted, or the other way round -/
  | kindMismatch
  /-- a mapping has no methods -/
  | methodOnMapping
  /-- the paths of the members of a nested shape that are not satisfied -/
  | nested (paths : List String)

/-- How a member is satisfied. `source` names a key of a mapping or a member of an object. -/
inductive Resolution where
  /-- read and written as it is -/
  | direct (source : String)
  /-- bridged by a converter -/
  | convertible (source : String) (stored declared : ValueType)
  /-- a shape, satisfied by a mapping or an object -/
  | nested (source : String)
  /-- a method, passed on to the source -/
  | method (source : String) (signature : MethodSignature)
  /-- an optional member that the source lacks -/
  | absent
  | unresolved (reason : UnresolvedReason)

namespace UnresolvedReason

/-- The text of a reason. -/
def render : UnresolvedReason → String
  | .missing => "missing"
  | .typeMismatch found => "found " ++ found.render ++ " with no converter"
  | .signatureMismatch found => "signature mismatch, found " ++ found.render
  | .kindMismatch => "member kind mismatch"
  | .methodOnMapping => "mappings cannot provide methods"
  | .nested paths => "nested: " ++ ", ".intercalate paths

/-- Equality of reasons; types are equal up to the order in shapes. -/
def same : UnresolvedReason → UnresolvedReason → Bool
  | .missing, .missing => true
  | .typeMismatch a, .typeMismatch b => a.same b
  | .signatureMismatch a, .signatureMismatch b => a.same b
  | .kindMismatch, .kindMismatch => true
  | .methodOnMapping, .methodOnMapping => true
  | .nested as, .nested bs => as == bs
  | _, _ => false

end UnresolvedReason

namespace Resolution

/-- The key or member of the source that stands behind a resolution. -/
def source? : Resolution → Option String
  | .direct source => some source
  | .convertible source _ _ => some source
  | .nested source => some source
  | .method source _ => some source
  | .absent => none
  | .unresolved _ => none

def isUnresolved : Resolution → Bool
  | .unresolved _ => true
  | _ => false

/-- The text of a resolution. -/
def render : Resolution → String
  | .direct source => "direct (" ++ source ++ ")"
  | .convertible source stored declared =>
    "convert " ++ stored.render ++ " -> " ++ declared.render ++ " (" ++ source ++ ")"
  | .nested source => "nested (" ++ source ++ ")"
  | .method source signature => "method " ++ source ++ signature.render
  | .absent => "absent"
  | .unresolved reason => "unresolved: " ++ reason.render

/-- Equality of resolutions; types are equal up to the order in shapes. -/
def same : Resolution → Resolution → Bool
  | .direct a, .direct b => a == b
  | .convertible a s t, .convertible b u v => a == b && s.same u && t.same v
  | .nested a, .nested b => a == b
  | .method a s, .method b t => a == b && s.same t
  | .absent, .absent => true
  | .unresolved r, .unresolved s => r.same s
  | _, _ => false

end Resolution

/-- A member of the shape and how it is satisfied. -/
structure PlanEntry where
  member : Member
  resolution : Resolution

namespace PlanEntry

/-- Equality of entries. -/
def same (a b : PlanEntry) : Bool := a.member.same b.member && a.resolution.same b.resolution

/-- The paths that a member adds to the unresolved ones. -/
def unresolved (e : PlanEntry) : List String :=
  match e.resolution with
  | .unresolved (.nested paths) => paths.map fun path => e.member.name ++ "." ++ path
  | .unresolved _ => [e.member.name]
  | _ => []

/-- The line of a member. -/
def render (e : PlanEntry) : String :=
  "  " ++ e.member.render ++ ": " ++ e.resolution.render ++ "\n"

end PlanEntry

/-- How a source satisfies a shape, member by member in the order of the shape. -/
structure Plan where
  shape : Shape
  caseSensitive : Bool
  entries : List PlanEntry

instance : Inhabited Plan := ⟨⟨default, false, []⟩⟩

namespace Plan

/-- How the member of this name is satisfied. -/
def resolution? (p : Plan) (name : String) : Option Resolution :=
  (p.entries.find? (·.member.name == name)).map (·.resolution)

/-- No member is unresolved. -/
def isSatisfiable (p : Plan) : Bool := !p.entries.any (·.resolution.isUnresolved)

/-- The paths of all unresolved members, with dots between the members of nested shapes. -/
def unresolved (p : Plan) : List String := p.entries.flatMap PlanEntry.unresolved

/-- The text of a plan, a line for each member. -/
def render (p : Plan) : String :=
  "plan for " ++ p.shape.name ++ ":\n" ++ String.join (p.entries.map PlanEntry.render)

/-- Entry by entry the same. -/
def sameEntries : List PlanEntry → List PlanEntry → Bool
  | [], [] => true
  | a :: as, b :: bs => a.same b && sameEntries as bs
  | _, _ => false

/-- Equality of plans; shapes and types are equal up to order and names. -/
def same (p q : Plan) : Bool :=
  p.shape.same q.shape && p.caseSensitive == q.caseSensitive && sameEntries p.entries q.entries

end Plan

end DuckTyping
