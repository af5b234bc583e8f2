import DuckTyping.Proofs.SatisfiedShapes
import DuckTyping.Proofs.SchemaResolutions

set_option autoImplicit false

/-!
# Unresolved paths

A plan that cannot be put to use says why: every unresolved member adds a path, and no other member
does. What could break this is a nested source that fails without a path of its own, and by
induction on the shapes of properties there is none. For a mapping the paths are those of the
members that fail, in the order of the shape: a member that fails by itself adds its name, and one
that leads to a failing source adds the paths of that source behind its name.
-/

namespace DuckTyping

/-! ## Plans whose reasons name some member -/

/-- Unless its reason is an empty list of paths, an entry adds a path exactly if it is unresolved.
-/
theorem PlanEntry.unresolved_eq_nil_iff {e : PlanEntry}
    (h : e.resolution ≠ .unresolved (.nested [])) :
    e.unresolved = [] ↔ e.resolution.isUnresolved = false := by
  obtain ⟨m, resolution⟩ := e
  cases resolution with
  | unresolved reason =>
    cases reason with
    | nested paths =>
      have hpaths : paths ≠ [] := fun hnil => h (hnil ▸ rfl)
      simp [unresolved, Resolution.isUnresolved, hpaths]
    | _ => simp [unresolved, Resolution.isUnresolved]
  | _ => simp [unresolved, Resolution.isUnresolved]

theorem Plan.isSatisfiable_iff_unresolved_eq_nil {p : Plan}
    (h : ∀ e ∈ p.entries, e.resolution ≠ .unresolved (.nested [])) :
    p.isSatisfiable = true ↔ p.unresolved = [] := by
  rw [isSatisfiable, Bool.not_eq_true', List.any_eq_false, unresolved, List.flatMap_eq_nil_iff]
  refine forall₂_congr fun e he => ?_
  rw [PlanEntry.unresolved_eq_nil_iff (h e he), Bool.not_eq_true]

namespace Inspector

variable {i : Inspector} {σ : Store}

/-! ## No empty reason -/

/-- A property fails for the members of a nested source only if it leads to one that fails, and then
for the paths of that one. -/
theorem nested_of_resolveValue {wanted : ValueType} {key : String} {v : Value}
    {paths : List String} (h : i.resolveValue σ wanted key v = .unresolved (.nested paths)) :
    ∃ s source, wanted = .shape s ∧ Source.ofValue? v = some source ∧
      ¬ i.Satisfies σ source s ∧ (i.inspect σ s source).unresolved = paths := by
  cases hshape : wanted.shape? with
  | none =>
    rw [resolveValue_of_shape?_eq_none hshape] at h
    split at h
    · cases h
    · unfold resolveDiffering at h
      split at h <;> cases h
  | some s =>
    cases wanted <;> cases hshape
    unfold resolveValue at h
    split at h
    · cases h
    · cases hsource : Source.ofValue? v with
      | none =>
        simp only [hsource] at h
        cases h
      | some source =>
        simp only [hsource] at h
        split at h
        · cases h
        · rename_i hfails
          cases h
          exact ⟨s, source, rfl, rfl, hfails, rfl⟩

/-- A member that fails for the members of a nested source is a property whose type is the shape of
that source. -/
theorem nested_of_resolution {source : Source} {m : Member} {paths : List String}
    (h : i.resolution σ source m = .unresolved (.nested paths)) :
    ∃ s writable inner, m.kind = .property (.shape s) writable ∧ ¬ i.Satisfies σ inner s ∧
      (i.inspect σ s inner).unresolved = paths := by
  cases source with
  | object o => exact absurd h (i.resolveMember_ne_nested (σ.schema o) m paths)
  | map ref =>
    have hresolves := i.resolvesKey_resolution σ ref m
    rw [h] at hresolves
    cases hresolves with
    | @property wanted writable key v r hkind hvalue =>
      obtain ⟨s, inner, rfl, _, hfails, hpaths⟩ := nested_of_resolveValue hvalue
      exact ⟨s, writable, inner, hkind, hfails, hpaths⟩

/-- A source satisfies a shape exactly if the plan has no unresolved path. -/
theorem satisfies_iff_unresolved_eq_nil (shape : Shape) (source : Source) :
    i.Satisfies σ source shape ↔ (i.inspect σ shape source).unresolved = [] := by
  induction shape using Shape.nested_induction generalizing source with
  | h shape ih =>
    refine Plan.isSatisfiable_iff_unresolved_eq_nil ?_
    rw [entries_inspect, List.forall_mem_map]
    intro m hm hnested
    obtain ⟨s, writable, inner, hkind, hfails, hpaths⟩ := nested_of_resolution hnested
    -- the nested plan would fail without a path, which the induction hypothesis rules out
    exact hfails ((ih s ⟨m, hm, writable, hkind⟩ inner).2 hpaths)

/-! ## What a member of a mapping adds -/

/-- The value that a name leads to in a mapping, which counts as null if the key has none. -/
def found? (i : Inspector) (σ : Store) (ref : MapRef) (name : String) : Option Value :=
  ((i.view σ ref).resolveKey? σ name).map fun key => ((i.view σ ref).lookUp? σ key).getD .null

/-- The member fails by itself, given the value that its name leads to: it is needed and missing, it
is a method, or the value is neither of its type nor converted to it. -/
inductive FailsAlone (i : Inspector) : Option Value → Member → Prop
  | missing {name : String} {kind : MemberKind} : FailsAlone i none ⟨name, kind, false⟩
  | method {v : Value} {name : String} {signature : MethodSignature} {optional : Bool} :
      FailsAlone i (some v) ⟨name, .method signature, optional⟩
  | noSource {v : Value} {name : String} {s : Shape} {writable optional : Bool}
      (hnull : v.isNull = false) (hsource : Source.ofValue? v = none) :
      FailsAlone i (some v) ⟨name, .property (.shape s) writable, optional⟩
  | differs {v : Value} {name : String} {wanted : ValueType} {writable optional : Bool}
      (hshape : wanted.shape? = none) (hkeeps : (v.isNull || v.conformsTo wanted) = false)
      (hcan : (i.options.allowConversion && i.registry.canConvert v.valueType wanted) = false) :
      FailsAlone i (some v) ⟨name, .property wanted writable, optional⟩

/-- The member is a property of this shape, and the value that its name leads to is this mapping or
object. -/
inductive LeadsTo : Option Value → Member → Shape → Source → Prop
  | property {v : Value} {name : String} {s : Shape} {writable optional : Bool} {source : Source}
      (hsource : Source.ofValue? v = some source) :
      LeadsTo (some v) ⟨name, .property (.shape s) writable, optional⟩ s source

/-- The paths that a member adds to the unresolved ones, given the value that its name leads to. -/
inductive Adds (i : Inspector) (σ : Store) (found : Option Value) (m : Member) :
    List String → Prop
  | itself (h : i.FailsAlone found m) : Adds i σ found m [m.name]
  | inside {s : Shape} {source : Source} (h : LeadsTo found m s source)
      (hfails : ¬ i.Satisfies σ source s) (hpaths : (i.inspect σ s source).unresolved ≠ []) :
      Adds i σ found m ((i.inspect σ s source).unresolved.map fun path => m.name ++ "." ++ path)
  | nothing (halone : ¬ i.FailsAlone found m)
      (hinside : ∀ s source, LeadsTo found m s source → i.Satisfies σ source s) :
      Adds i σ found m []

theorem adds_resolveMissing (m : Member) :
    i.Adds σ none m (PlanEntry.mk m (resolveMissing m.optional)).unresolved := by
  obtain ⟨name, kind, optional⟩ := m
  cases optional with
  | false => exact .itself .missing
  | true =>
    refine .nothing ?_ ?_
    · intro h
      cases h
    · intro s source h
      cases h

section Property

variable {v : Value} {name : String} {wanted : ValueType} {writable optional : Bool}

theorem failsAlone_shape_iff {s : Shape} :
    i.FailsAlone (some v) ⟨name, .property (.shape s) writable, optional⟩ ↔
      v.isNull = false ∧ Source.ofValue? v = none := by
  constructor
  · intro h
    cases h with
    | noSource hnull hsource => exact ⟨hnull, hsource⟩
    | differs hshape => cases hshape
  · rintro ⟨hnull, hsource⟩
    exact .noSource hnull hsource

theorem failsAlone_iff_of_shape?_eq_none (hshape : wanted.shape? = none) :
    i.FailsAlone (some v) ⟨name, .property wanted writable, optional⟩ ↔
      (v.isNull || v.conformsTo wanted) = false ∧
        (i.options.allowConversion && i.registry.canConvert v.valueType wanted) = false := by
  constructor
  · intro h
    cases h with
    | noSource => cases hshape
    | differs _ hkeeps hcan => exact ⟨hkeeps, hcan⟩
  · rintro ⟨hkeeps, hcan⟩
    exact .differs hshape hkeeps hcan

theorem leadsTo_iff {s : Shape} {source : Source} :
    LeadsTo (some v) ⟨name, .property wanted writable, optional⟩ s source ↔
      wanted = .shape s ∧ Source.ofValue? v = some source := by
  constructor
  · intro h
    cases h with
    | property hsource => exact ⟨rfl, hsource⟩
  · rintro ⟨rfl, hsource⟩
    exact .property hsource

theorem adds_of_shape?_eq_none (hshape : wanted.shape? = none) (key : String) :
    i.Adds σ (some v) ⟨name, .property wanted writable, optional⟩
      (PlanEntry.mk ⟨name, .property wanted writable, optional⟩
        (i.resolveValue σ wanted key v)).unresolved := by
  have hinside : ∀ s source,
      LeadsTo (some v) ⟨name, .property wanted writable, optional⟩ s source →
        i.Satisfies σ source s := by
    intro s source h
    obtain ⟨rfl, _⟩ := leadsTo_iff.1 h
    cases hshape
  rw [resolveValue_of_shape?_eq_none hshape, resolveDiffering]
  split
  · rename_i hkeeps
    refine .nothing ?_ hinside
    rw [failsAlone_iff_of_shape?_eq_none hshape, hkeeps]
    exact fun h => Bool.noConfusion h.1
  · split
    · rename_i hcan
      refine .nothing ?_ hinside
      rw [failsAlone_iff_of_shape?_eq_none hshape, hcan]
      exact fun h => Bool.noConfusion h.2
    · rename_i hkeeps hcan
      refine .itself ((failsAlone_iff_of_shape?_eq_none hshape).2 ?_)
      exact ⟨Bool.eq_false_iff.2 hkeeps, Bool.eq_false_iff.2 hcan⟩

/-- A property of a shape adds its name if the value is no source, and the paths of the source
behind its name if that one fails. -/
theorem adds_of_shape (s : Shape) (key : String) :
    i.Adds σ (some v) ⟨name, .property (.shape s) writable, optional⟩
      (PlanEntry.mk ⟨name, .property (.shape s) writable, optional⟩
        (i.resolveValue σ (.shape s) key v)).unresolved := by
  unfold resolveValue
  split
  · rename_i hnull
    refine .nothing ?_ fun t source h => ?_
    · rw [failsAlone_shape_iff, hnull]
      exact fun h => Bool.noConfusion h.1
    · rw [Source.isNull_of_ofValue? (leadsTo_iff.1 h).2] at hnull
      cases hnull
  · rename_i hnull
    cases hsource : Source.ofValue? v with
    | none =>
      exact .itself (failsAlone_shape_iff.2 ⟨Bool.eq_false_iff.2 hnull, hsource⟩)
    | some source =>
      simp only
      split
      · rename_i hsatisfies
        refine .nothing ?_ fun t inner h => ?_
        · rw [failsAlone_shape_iff, hsource]
          rintro ⟨_, hnone⟩
          cases hnone
        · obtain ⟨hshape, hinner⟩ := leadsTo_iff.1 h
          rw [hsource] at hinner
          cases hshape
          cases hinner
          exact hsatisfies
      · rename_i hfails
        refine .inside (leadsTo_iff.2 ⟨rfl, hsource⟩) hfails fun hnil => hfails ?_
        exact (satisfies_iff_unresolved_eq_nil s source).2 hnil

end Property

/-- The entry of a member of a mapping adds what the member adds. -/
theorem adds_unresolved (ref : MapRef) (m : Member) :
    i.Adds σ (i.found? σ ref m.name) m
      (PlanEntry.mk m (i.resolution σ (.map ref) m)).unresolved := by
  rw [resolution_map, found?]
  cases (i.view σ ref).resolveKey? σ m.name with
  | none => exact adds_resolveMissing m
  | some key =>
    obtain ⟨name, kind, optional⟩ := m
    cases kind with
    | method signature => exact .itself .method
    | property wanted writable =>
      cases hshape : wanted.shape? with
      | none => exact adds_of_shape?_eq_none hshape key
      | some s =>
        cases wanted <;> cases hshape
        exact adds_of_shape s key

/-- **Unresolved paths are complete and never empty.** A source satisfies a shape exactly if its
plan has no unresolved path, so no source is refused without one. The unresolved paths of a mapping
are what the members of the shape add, one after another in their order. -/
theorem unresolved_paths_are_complete (i : Inspector) (σ : Store) (shape : Shape) :
    (∀ source, ((i.inspect σ shape source).isSatisfiable = true ↔
        (i.inspect σ shape source).unresolved = []) ∧ i.resolve σ shape source ≠ .error []) ∧
      ∀ ref, ∃ added : List (List String),
        List.Forall₂ (fun m paths => i.Adds σ (i.found? σ ref m.name) m paths) shape.members
          added ∧
        (i.inspect σ shape (.map ref)).unresolved = added.flatten := by
  refine ⟨fun source => ⟨satisfies_iff_unresolved_eq_nil shape source, ?_⟩, fun ref => ?_⟩
  · intro hrefused
    simp only [resolve] at hrefused
    split at hrefused
    · cases hrefused
    · rename_i hfails
      exact hfails ((satisfies_iff_unresolved_eq_nil shape source).2 (Except.error.inj hrefused))
  · refine ⟨shape.members.map fun m => (PlanEntry.mk m (i.resolution σ (.map ref) m)).unresolved,
      ?_, ?_⟩
    · rw [List.forall₂_map_right_iff, List.forall₂_same]
      exact fun m _ => adds_unresolved ref m
    · rw [Plan.unresolved, entries_inspect, List.flatMap_map, List.flatMap_def]

/-- A member that is missing in a nested mapping is reported behind the name that leads there, and
in the place of that name. -/
example :
    let inner : Shape := ⟨1, "Inner", [⟨"Id", .property .integer false, false⟩]⟩
    let outer : Shape := ⟨2, "Outer", [⟨"Name", .property .text false, false⟩,
      ⟨"Inner", .property (.shape inner) false, false⟩, ⟨"Size", .property .integer false, false⟩]⟩
    let host : ForeignMapping :=
      { typeName := "plain", sameKey := (· == ·), declared := none, readOnly := false
        refusal := none, entries := [("Inner", .map (.cell 1))] }
    let σ : Store := ⟨#[.foreign host, .dictionary default], #[], 0⟩
    (inspect ⟨.empty, {}⟩ σ outer (.map (.cell 0))).unresolved = ["Name", "Inner.Id", "Size"] := by
  decide +kernel

end Inspector

end DuckTyping
