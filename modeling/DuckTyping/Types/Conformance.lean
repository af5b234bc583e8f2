import DuckTyping.Types.Sameness

set_option autoImplicit false

/-!
# Structural conformance

When a value declared with one type can be read where another is expected, without any conversion:
the types are the same, everything is expected, or both are shapes and the first provides each
member of the second. A property may have a narrower type unless it is to be written; a writable
property needs a writable one of the same type, and a method needs the same signature. An optional
member may be missing.

The recursion follows the type that is expected.
-/

namespace DuckTyping

mutual

/-- A value declared as `sub` can be read where `sup` is expected. -/
def ValueType.isAssignable (sub sup : ValueType) : Bool :=
  sub.same sup ||
    match sup, sub with
    | .any, _ => true
    | .shape target, .shape source => target.acceptsShape source
    | _, _ => false
termination_by structural sup

/-- The source shape provides every member of the target. -/
def Shape.acceptsShape (target source : Shape) : Bool :=
  match target with
  | ⟨_, _, members⟩ => allProvided members source
termination_by structural target

/-- The source shape provides each of these members. -/
def allProvided (members : List Member) (source : Shape) : Bool :=
  match members with
  | [] => true
  | m :: rest => m.isProvided source && allProvided rest source
termination_by structural members

/-- The source shape has a fitting member of this name, or lacks one that is optional. -/
def Member.isProvided (member : Member) (source : Shape) : Bool :=
  match member with
  | ⟨name, kind, optional⟩ =>
    match source.member? name with
    | none => optional
    | some found => kind.isProvidedBy found.kind
termination_by structural member

/-- A member of the kind `found` can stand for one of this kind. -/
def MemberKind.isProvidedBy (wanted found : MemberKind) : Bool :=
  match wanted, found with
  | .property target true, .property source writable => writable && source.same target
  | .property target false, .property source _ => source.isAssignable target
  | .method target, .method source => source.same target
  | _, _ => false
termination_by structural wanted

end

/-- Every member of `target` is provided by `source`. -/
def Shape.conforms (source target : Shape) : Bool := target.acceptsShape source

theorem allProvided_eq_all (members : List Member) (source : Shape) :
    allProvided members source = members.all (·.isProvided source) := by
  induction members with
  | nil => rfl
  | cons m rest ih => simp [allProvided, ih]

theorem Shape.conforms_eq_all (source target : Shape) :
    source.conforms target = target.members.all (·.isProvided source) := by
  cases target
  simp [Shape.conforms, Shape.acceptsShape, allProvided_eq_all]

@[simp] theorem ValueType.isAssignable_refl (t : ValueType) : t.isAssignable t = true := by
  unfold ValueType.isAssignable
  simp

@[simp] theorem ValueType.isAssignable_any (t : ValueType) : t.isAssignable .any = true := by
  simp [ValueType.isAssignable]

theorem ValueType.isAssignable_shape_shape (s t : Shape) :
    (ValueType.shape s).isAssignable (.shape t) = (s.same t || s.conforms t) := by
  simp [ValueType.isAssignable, ValueType.same_shape, Shape.conforms]

end DuckTyping
