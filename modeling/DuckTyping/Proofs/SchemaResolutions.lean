import DuckTyping.Proofs.ConformanceOrder
import DuckTyping.Proofs.PlanAgreement

set_option autoImplicit false

/-!
# What a member may resolve to against a schema

Against a schema a member is absent or missing, or it is judged by one member of the schema: a
method by its signature, a property by its declared type. Each outcome says what led to it.
-/

namespace DuckTyping

namespace Inspector

variable {i : Inspector} {schema : Shape} {name source : String}

/-- How a property of the schema resolves a property. -/
inductive ResolvesProperty (i : Inspector) (source : String) (wanted declared : ValueType) :
    Resolution → Prop
  | direct (h : declared.isAssignable wanted = true) :
      ResolvesProperty i source wanted declared (.direct source)
  | convertible (hallowed : i.options.allowConversion = true)
      (hcan : i.registry.canConvert declared wanted = true) :
      ResolvesProperty i source wanted declared (.convertible source declared wanted)
  | nested {s : Shape} (hwanted : wanted = .shape s) :
      ResolvesProperty i source wanted declared (.nested source)
  | mismatch : ResolvesProperty i source wanted declared (.unresolved (.typeMismatch declared))

/-- How a schema resolves a member. -/
inductive ResolvesMember (i : Inspector) (schema : Shape) (m : Member) : Resolution → Prop
  | absent (h : m.optional = true) : ResolvesMember i schema m .absent
  | missing : ResolvesMember i schema m (.unresolved .missing)
  | property {source : String} {wanted declared : ValueType} {w writable optional : Bool}
      {r : Resolution} (hkind : m.kind = .property wanted w)
      (hfound : ⟨source, .property declared writable, optional⟩ ∈ schema.members)
      (h : i.ResolvesProperty source wanted declared r) : ResolvesMember i schema m r
  | method {source : String} {wanted declared : MethodSignature} {optional : Bool}
      (hkind : m.kind = .method wanted)
      (hfound : ⟨source, .method declared, optional⟩ ∈ schema.members)
      (h : wanted.same declared = true) : ResolvesMember i schema m (.method source declared)
  | signatureMismatch (found : MethodSignature) :
      ResolvesMember i schema m (.unresolved (.signatureMismatch found))
  | kindMismatch : ResolvesMember i schema m (.unresolved .kindMismatch)

theorem resolvesProperty_resolveDiffering (i : Inspector) (source : String)
    (wanted declared : ValueType) :
    i.ResolvesProperty source wanted declared (i.resolveDiffering source declared wanted) := by
  unfold resolveDiffering
  split
  · rename_i hcan
    obtain ⟨hallowed, hconverts⟩ := Bool.and_eq_true_iff.1 hcan
    exact .convertible hallowed hconverts
  · exact .mismatch

theorem resolvesProperty_resolveProperty (i : Inspector) (source : String)
    (wanted declared : ValueType) :
    i.ResolvesProperty source wanted declared (i.resolveProperty source wanted declared) := by
  cases hshape : wanted.shape? with
  | some target =>
    cases wanted <;> cases hshape
    cases declared with
    | shape found =>
      rw [resolveProperty]
      split
      · exact .nested rfl
      · exact .mismatch
    | map | object _ | any => exact .nested rfl
    | _ => exact .mismatch
  | none =>
    by_cases hany : wanted = .any
    · subst hany
      exact .direct (ValueType.isAssignable_any declared)
    · rw [i.resolveProperty_of_shape?_eq_none hshape hany]
      split
      · rename_i hassignable
        exact .direct hassignable
      · exact i.resolvesProperty_resolveDiffering source wanted declared

theorem mem_of_findMember? {found : Member} (h : i.findMember? schema name = some found) :
    found ∈ schema.members := by
  unfold findMember? at h
  split at h
  · rename_i m hexact
    cases h
    exact (Shape.mem_of_member? hexact).1
  · split at h
    · exact List.mem_of_find?_eq_some h
    · cases h

/-- A member resolves against a schema in one of these ways. -/
theorem resolvesMember_resolveMember (i : Inspector) (schema : Shape) (m : Member) :
    i.ResolvesMember schema m (i.resolveMember schema m) := by
  unfold resolveMember
  split
  · rename_i found hfound
    have hmem := mem_of_findMember? hfound
    obtain ⟨name, kind, optional⟩ := m
    obtain ⟨source, foundKind, foundOptional⟩ := found
    cases kind with
    | method wanted =>
      cases foundKind with
      | method declared =>
        simp only [resolveFound]
        split
        · rename_i hsame
          exact .method rfl hmem hsame
        · exact .signatureMismatch declared
      | property declared w => exact .kindMismatch
    | property wanted writable =>
      cases foundKind with
      | method declared => exact .kindMismatch
      | property declared w =>
        exact .property rfl hmem (i.resolvesProperty_resolveProperty source wanted declared)
  · unfold resolveMissing
    split
    · rename_i hoptional
      exact .absent hoptional
    · exact .missing

/-- A member of an object does not fail for a member of a nested source. -/
theorem resolveMember_ne_nested (i : Inspector) (schema : Shape) (m : Member)
    (paths : List String) : i.resolveMember schema m ≠ .unresolved (.nested paths) := by
  intro h
  have hresolves := i.resolvesMember_resolveMember schema m
  rw [h] at hresolves
  cases hresolves with
  | property _ _ hproperty => cases hproperty

end Inspector

end DuckTyping
