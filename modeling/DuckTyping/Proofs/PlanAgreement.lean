import DuckTyping.Plan.Inspection
import DuckTyping.Proofs.CanonicalForm

set_option autoImplicit false

/-!
# Plans for the same shape and the same schema agree

Resolutions and plan entries have canonical forms like types. Where names are matched exactly, the
plan for an object has the canonical entries that belong to the canonical shape and the canonical
schema, so shapes and schemas that are the same lead to plans that agree: on the flag, on whether
the source will do, on the resolution of every name, and on the unresolved names up to order.
-/

namespace DuckTyping

/-! ## Canonical resolutions -/

/-- A reason with the types in it in canonical form. -/
def UnresolvedReason.canonical : UnresolvedReason → UnresolvedReason
  | .typeMismatch found => .typeMismatch found.canonical
  | .signatureMismatch found => .signatureMismatch found.canonical
  | reason => reason

/-- A resolution with the types in it in canonical form. -/
def Resolution.canonical : Resolution → Resolution
  | .convertible source stored declared => .convertible source stored.canonical declared.canonical
  | .method source signature => .method source signature.canonical
  | .unresolved reason => .unresolved reason.canonical
  | resolution => resolution

theorem UnresolvedReason.same_iff {r s : UnresolvedReason} :
    r.same s = true ↔ r.canonical = s.canonical := by
  cases r <;> cases s <;>
    simp [UnresolvedReason.same, UnresolvedReason.canonical, ValueType.same_iff,
      MethodSignature.same_iff]

theorem Resolution.same_iff {r s : Resolution} : r.same s = true ↔ r.canonical = s.canonical := by
  cases r <;> cases s <;>
    simp [Resolution.same, Resolution.canonical, ValueType.same_iff, MethodSignature.same_iff,
      UnresolvedReason.same_iff, and_assoc]

@[simp] theorem Resolution.isUnresolved_canonical (r : Resolution) :
    r.canonical.isUnresolved = r.isUnresolved := by
  cases r <;> rfl

/-! ## Canonical plan entries -/

/-- An entry with its member and its resolution in canonical form. -/
def PlanEntry.canonical (e : PlanEntry) : PlanEntry := ⟨e.member.canonical, e.resolution.canonical⟩

/-- The name of the member that an entry is about. -/
def PlanEntry.name (e : PlanEntry) : String := e.member.name

theorem PlanEntry.name_canonical (e : PlanEntry) : e.canonical.name = e.name :=
  Member.canonical_name e.member

theorem PlanEntry.unresolved_canonical (e : PlanEntry) : e.canonical.unresolved = e.unresolved := by
  obtain ⟨member, resolution⟩ := e
  cases resolution with
  | unresolved reason =>
    cases reason <;> simp [PlanEntry.canonical, PlanEntry.unresolved, Resolution.canonical,
      UnresolvedReason.canonical]
  | _ => rfl

namespace Plan

/-- The canonical entries of a plan, in the order of their names. -/
def canonicalEntries (p : Plan) : List PlanEntry :=
  sortByName PlanEntry.name (p.entries.map PlanEntry.canonical)

theorem canonicalEntries_perm (p : Plan) :
    p.canonicalEntries.Perm (p.entries.map PlanEntry.canonical) :=
  sortByName_perm _ _

theorem find?_canonicalEntries (p : Plan) (name : String) :
    (p.canonicalEntries.find? (·.name == name)).map (·.resolution) =
      (p.resolution? name).map Resolution.canonical := by
  rw [canonicalEntries, find?_sortByName_map PlanEntry.name _ PlanEntry.name_canonical, resolution?,
    Option.map_map, Option.map_map]
  rfl

theorem isSatisfiable_eq_canonicalEntries (p : Plan) :
    p.isSatisfiable = !p.canonicalEntries.any (·.resolution.isUnresolved) := by
  rw [p.canonicalEntries_perm.any_eq, List.any_map, isSatisfiable]
  have hunresolved : (fun e : PlanEntry => e.resolution.isUnresolved) ∘ PlanEntry.canonical =
      fun e => e.resolution.isUnresolved := by
    funext e
    rw [Function.comp_apply, PlanEntry.canonical, Resolution.isUnresolved_canonical]
  rw [hunresolved]

/-- The unresolved paths are those of the canonical entries, in another order. -/
theorem unresolved_perm_canonicalEntries (p : Plan) :
    p.unresolved.Perm (p.canonicalEntries.flatMap PlanEntry.unresolved) := by
  have hperm := p.canonicalEntries_perm.flatMap_right PlanEntry.unresolved
  rw [List.flatMap_map, funext PlanEntry.unresolved_canonical] at hperm
  exact hperm.symm

/-- Two plans say the same about a source, but for the order of their members and the names of
shapes. -/
structure Agrees (p q : Plan) : Prop where
  caseSensitive : p.caseSensitive = q.caseSensitive
  isSatisfiable : p.isSatisfiable = q.isSatisfiable
  resolution : ∀ name,
    Option.Rel (fun r s => r.same s = true) (p.resolution? name) (q.resolution? name)
  unresolved : p.unresolved.Perm q.unresolved

/-- Plans with the same flag and equal canonical entries agree. -/
theorem agrees_of_canonicalEntries_eq {p q : Plan} (hflag : p.caseSensitive = q.caseSensitive)
    (hentries : p.canonicalEntries = q.canonicalEntries) : p.Agrees q where
  caseSensitive := hflag
  isSatisfiable := by
    rw [p.isSatisfiable_eq_canonicalEntries, q.isSatisfiable_eq_canonicalEntries, hentries]
  resolution := by
    intro name
    have hfound := p.find?_canonicalEntries name
    rw [hentries, q.find?_canonicalEntries name] at hfound
    generalize p.resolution? name = r at hfound ⊢
    generalize q.resolution? name = s at hfound ⊢
    cases r with
    | none =>
      cases s with
      | none => exact .none
      | some s => exact absurd hfound (Option.some_ne_none _)
    | some r =>
      cases s with
      | none => exact absurd hfound.symm (Option.some_ne_none _)
      | some s => exact .some (Resolution.same_iff.2 (Option.some.inj hfound).symm)
  unresolved := by
    have hq := q.unresolved_perm_canonicalEntries
    rw [← hentries] at hq
    exact p.unresolved_perm_canonicalEntries.trans hq.symm

theorem agrees_refl (p : Plan) : p.Agrees p := agrees_of_canonicalEntries_eq rfl rfl

end Plan

/-! ## Inspection of objects -/

namespace Inspector

variable (i : Inspector)

theorem resolveDiffering_canonical (source : String) (found wanted : ValueType) :
    i.resolveDiffering source found.canonical wanted.canonical =
      (i.resolveDiffering source found wanted).canonical := by
  rw [resolveDiffering, Registry.canConvert, ValueType.kind_canonical, ValueType.kind_canonical,
    resolveDiffering, Registry.canConvert]
  split <;> rfl

theorem resolveProperty_of_shape?_eq_none {wanted : ValueType} (hshape : wanted.shape? = none)
    (hany : wanted ≠ .any) (source : String) (declared : ValueType) :
    i.resolveProperty source wanted declared =
      if declared.isAssignable wanted then .direct source
      else i.resolveDiffering source declared wanted := by
  cases wanted with
  | any => exact absurd rfl hany
  | shape s => exact absurd hshape (Option.some_ne_none s)
  | _ => rfl

theorem resolveProperty_canonical (source : String) (wanted declared : ValueType) :
    i.resolveProperty source wanted.canonical declared.canonical =
      (i.resolveProperty source wanted declared).canonical := by
  cases hshape : wanted.shape? with
  | some target =>
    cases wanted <;> cases hshape
    cases declared with
    | shape found =>
      rw [ValueType.canonical, ValueType.canonical, resolveProperty, Shape.conforms_canonical,
        resolveProperty]
      split <;> rfl
    | _ => rfl
  | none =>
    by_cases hany : wanted = .any
    · subst hany
      rfl
    · have hassignable := ValueType.isAssignable_canonical wanted declared
      have hdiffering := i.resolveDiffering_canonical source declared wanted
      rw [ValueType.canonical_of_shape?_eq_none hshape] at hassignable hdiffering ⊢
      rw [i.resolveProperty_of_shape?_eq_none hshape hany, hassignable, hdiffering,
        i.resolveProperty_of_shape?_eq_none hshape hany]
      split <;> rfl

theorem resolveFound_canonical (member found : Member) :
    i.resolveFound member.canonical found.canonical = (i.resolveFound member found).canonical := by
  obtain ⟨name, kind, optional⟩ := member
  obtain ⟨source, found, foundOptional⟩ := found
  cases kind with
  | property wanted writable =>
    cases found with
    | property declared foundWritable => exact i.resolveProperty_canonical source wanted declared
    | method declared => rfl
  | method wanted =>
    cases found with
    | property declared foundWritable => rfl
    | method declared =>
      simp only [Member.canonical, MemberKind.canonical, resolveFound,
        MethodSignature.same_canonical]
      split <;> rfl

variable {i}

/-- How a member resolves depends on its canonical form and that of the member that answers to its
name. -/
theorem resolveMember_congr {s t : Shape} {m n : Member} (hmember : m.canonical = n.canonical)
    (hfound : (i.findMember? s m.name).map Member.canonical =
      (i.findMember? t n.name).map Member.canonical) :
    (i.resolveMember s m).canonical = (i.resolveMember t n).canonical := by
  have hoptional : m.optional = n.optional := by
    rw [← Member.canonical_optional, hmember, Member.canonical_optional]
  unfold resolveMember
  cases hs : i.findMember? s m.name with
  | none =>
    rw [hs, Option.map_none] at hfound
    rw [Option.map_eq_none_iff.1 hfound.symm, hoptional]
  | some found =>
    rw [hs, Option.map_some] at hfound
    obtain ⟨found', ht, heq⟩ := Option.map_eq_some_iff.1 hfound.symm
    rw [ht]
    simp only
    rw [← resolveFound_canonical, ← heq, hmember, resolveFound_canonical]

theorem resolveMember_canonical (hexact : i.options.fuzzy = false) (schema : Shape)
    (member : Member) :
    i.resolveMember schema.canonical member.canonical =
      (i.resolveMember schema member).canonical := by
  have hfind : ∀ s : Shape, i.findMember? s member.name = s.member? member.name := by
    intro s
    rw [findMember?, hexact]
    cases s.member? member.name <;> rfl
  rw [resolveMember, resolveMember, Member.canonical_name, hfind, hfind, Shape.member?_canonical]
  cases schema.member? member.name with
  | some found => exact i.resolveFound_canonical member found
  | none =>
    rw [Option.map_none]
    show resolveMissing member.canonical.optional = (resolveMissing member.optional).canonical
    rw [Member.canonical_optional]
    cases member.optional <;> rfl

/-- Where names are matched exactly, the canonical entries of a plan are determined by the
canonical shape and the canonical schema. -/
theorem canonicalEntries_inspectSchema (hexact : i.options.fuzzy = false) (shape schema : Shape) :
    (i.inspectSchema shape schema).canonicalEntries =
      shape.canonical.members.map fun m => ⟨m, i.resolveMember schema.canonical m⟩ := by
  let entry : Member → PlanEntry := fun m => ⟨m, i.resolveMember schema.canonical m⟩
  have hsort : ∀ l : List Member,
      (sortByName Member.name l).map entry = sortByName PlanEntry.name (l.map entry) :=
    map_sortByName fun _ => rfl
  have hentry : ∀ m : Member,
      entry m.canonical = (PlanEntry.mk m (i.resolveMember schema m)).canonical := by
    intro m
    exact congrArg (PlanEntry.mk m.canonical) (resolveMember_canonical hexact schema m)
  rw [Shape.members_canonical, hsort, Plan.canonicalEntries, inspectSchema, List.map_map,
    List.map_map]
  congr 2
  funext m
  exact (hentry m).symm

/-- Where names are matched exactly, plans for the same shape and the same schema agree. -/
theorem inspectSchema_agrees (hexact : i.options.fuzzy = false)
    {shape shape' schema schema' : Shape} (hshape : shape.same shape' = true)
    (hschema : schema.same schema' = true) :
    (i.inspectSchema shape schema).Agrees (i.inspectSchema shape' schema') := by
  refine Plan.agrees_of_canonicalEntries_eq rfl ?_
  rw [canonicalEntries_inspectSchema hexact, canonicalEntries_inspectSchema hexact,
    Shape.same_iff.1 hshape, Shape.same_iff.1 hschema]

theorem inspect_object (σ : Store) (shape : Shape) (o : ObjectRef) :
    i.inspect σ shape (.object o) = i.inspectSchema shape (σ.schema o) := by
  cases shape
  rfl

end Inspector

end DuckTyping
