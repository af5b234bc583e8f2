import DuckTyping.Adapter.Adapter

set_option autoImplicit false

/-!
# Typers

A typer answers whether sources satisfy shapes, and adapts them. It remembers the plans that it made
for objects: a plan serves every object whose type has the same name and schema and every shape with
the same members. A mapping is inspected on every request, as its plan depends on the keys and
values that it has at the time.
-/

namespace DuckTyping

/-- What a remembered plan was made for. -/
structure PlanKey where
  shape : Shape
  typeName : String
  schema : Shape

/-- Equality of keys; shapes are equal up to order and names. -/
def PlanKey.same (a b : PlanKey) : Bool :=
  a.shape.same b.shape && a.typeName == b.typeName && a.schema.same b.schema

/-- A plan with the number under which its typer made it. -/
structure IssuedPlan where
  number : Nat
  plan : Plan

instance : Inhabited IssuedPlan := ⟨⟨0, default⟩⟩

/-- An inspector with a memory of plans for objects. -/
structure Typer where
  inspector : Inspector
  memo : List (PlanKey × IssuedPlan) := []
  issued : Nat := 0

namespace Typer

/-- The number of plans that are remembered. -/
def memoSize (t : Typer) : Nat := t.memo.length

/-- Forget all plans. -/
def clear (t : Typer) : Typer := { t with memo := [] }

/-- The plan that is remembered for a key. -/
def remembered? (t : Typer) (key : PlanKey) : Option IssuedPlan :=
  (t.memo.find? (·.1.same key)).map (·.2)

/-- A new plan. -/
def issue (t : Typer) (σ : Store) (shape : Shape) (source : Source) : IssuedPlan × Typer :=
  (⟨t.issued, t.inspector.inspect σ shape source⟩, { t with issued := t.issued + 1 })

/-- The plan for a request, and the typer that may have learned it. -/
def request (t : Typer) (σ : Store) (shape : Shape) (source : Source) : IssuedPlan × Typer :=
  match source with
  | .map _ => t.issue σ shape source
  | .object o =>
    if t.inspector.options.memoizeObjectPlans then
      let key : PlanKey := ⟨shape, o.typeName, σ.schema o⟩
      match t.remembered? key with
      | some plan => (plan, t)
      | none =>
        let (plan, after) := t.issue σ shape source
        (plan, { after with memo := after.memo ++ [(key, plan)] })
    else t.issue σ shape source

/-- The whole plan, unresolved members included. -/
def explain (t : Typer) (σ : Store) (shape : Shape) (source : Source) : Plan × Typer :=
  let (issued, after) := t.request σ shape source
  (issued.plan, after)

/-- The source satisfies the shape. -/
def canAdapt (t : Typer) (σ : Store) (shape : Shape) (source : Source) : Bool × Typer :=
  let (issued, after) := t.request σ shape source
  (issued.plan.isSatisfiable, after)

/-- Adapt the source, or report the members that it does not satisfy. -/
def tryAdapt (t : Typer) (σ : Store) (shape : Shape) (source : Source) :
    Except AdaptError Adapter × Typer :=
  let (issued, after) := t.request σ shape source
  (Adapter.build t.inspector shape source issued.plan, after)

/-- The diagnostic form of a typer. -/
def summary (t : Typer) : String :=
  "DuckTyper \x7b converters: " ++ Nat.repr t.inspector.registry.size ++ ", options: " ++
    t.inspector.options.summary ++ ", memoized_plans: " ++ Nat.repr t.memoSize ++ " \x7d"

end Typer

end DuckTyping
