import DuckTyping.Types.Conformance

set_option autoImplicit false

/-!
# Conformance with a table of assumptions

A session of conformance questions that keeps the pairs of shapes it is comparing. A shape is taken
to conform to itself without a look at its members, and a pair met again below itself is taken for
granted, so the comparison would end even on shapes that refer back to each other. Declarations are
told apart by their serial numbers.
-/

namespace DuckTyping

/-- The pairs being compared, by serial number, and how often one of them was taken for granted. -/
structure ConformanceContext where
  assumed : List (Nat × Nat) := []
  reused : Nat := 0
  deriving DecidableEq, Repr, Inhabited

namespace ConformanceContext

/-- Note that a pair is being compared. -/
def assume (ctx : ConformanceContext) (pair : Nat × Nat) : ConformanceContext :=
  { ctx with assumed := pair :: ctx.assumed }

/-- Forget a pair once it is settled. -/
def release (ctx : ConformanceContext) (pair : Nat × Nat) : ConformanceContext :=
  { ctx with assumed := ctx.assumed.erase pair }

@[simp] theorem release_assume (ctx : ConformanceContext) (pair : Nat × Nat) :
    (ctx.assume pair).release pair = ctx := by
  simp [assume, release]

end ConformanceContext

mutual

/-- A value declared as `sub` can be read where `sup` is expected, and the context afterwards. -/
def ValueType.isAssignableIn (sub sup : ValueType) (ctx : ConformanceContext) :
    Bool × ConformanceContext :=
  if sub.same sup then (true, ctx)
  else match sup, sub with
    | .any, _ => (true, ctx)
    | .shape target, .shape source => target.acceptsShapeIn source ctx
    | _, _ => (false, ctx)
termination_by structural sup

/-- The source shape provides every member of the target, and the context afterwards. -/
def Shape.acceptsShapeIn (target source : Shape) (ctx : ConformanceContext) :
    Bool × ConformanceContext :=
  match target with
  | ⟨serial, _, members⟩ =>
    if source.serial = serial then (true, ctx)
    else if (source.serial, serial) ∈ ctx.assumed then
      (true, { ctx with reused := ctx.reused + 1 })
    else
      let answer := allProvidedIn members source (ctx.assume (source.serial, serial))
      (answer.1, answer.2.release (source.serial, serial))
termination_by structural target

/-- The source shape provides each of these members; the first that it lacks ends the search. -/
def allProvidedIn (members : List Member) (source : Shape) (ctx : ConformanceContext) :
    Bool × ConformanceContext :=
  match members with
  | [] => (true, ctx)
  | m :: rest =>
    match m.isProvidedIn source ctx with
    | (true, after) => allProvidedIn rest source after
    | (false, after) => (false, after)
termination_by structural members

/-- The source shape has a fitting member of this name, or lacks one that is optional. -/
def Member.isProvidedIn (member : Member) (source : Shape) (ctx : ConformanceContext) :
    Bool × ConformanceContext :=
  match member with
  | ⟨name, kind, optional⟩ =>
    match source.member? name with
    | none => (optional, ctx)
    | some found => kind.isProvidedByIn found.kind ctx
termination_by structural member

/-- A member of the kind `found` can stand for one of this kind. -/
def MemberKind.isProvidedByIn (wanted found : MemberKind) (ctx : ConformanceContext) :
    Bool × ConformanceContext :=
  match wanted, found with
  | .property target true, .property source writable => (writable && source.same target, ctx)
  | .property target false, .property source _ => source.isAssignableIn target ctx
  | .method target, .method source => (source.same target, ctx)
  | _, _ => (false, ctx)
termination_by structural wanted

end

/-- Every member of `target` is provided by `source`, and the context afterwards. -/
def Shape.conformsIn (source target : Shape) (ctx : ConformanceContext) :
    Bool × ConformanceContext :=
  target.acceptsShapeIn source ctx

end DuckTyping
