import DuckTyping.Proofs.ObtainedAdapters
import DuckTyping.Proofs.SatisfiedShapes
import DuckTyping.Proofs.SchemaResolutions
import DuckTyping.Proofs.SoundConverters

set_option autoImplicit false

/-!
# The types of what is read

A property that is read directly or through a converter gives a value that fits the type declared
for it, whatever has become of the source since the plan was made: what does not fit is converted,
and the default converters keep to the type that is asked for. A property whose type is a shape is
handed out as the source holds it. There a value that is neither a mapping nor an object gets
through unchecked, and nothing else does.
-/

namespace DuckTyping

theorem Value.conformsTo_canonical (v : Value) (t : ValueType) :
    v.conformsTo t.canonical = v.conformsTo t := by
  cases hshape : t.shape? with
  | none => rw [ValueType.canonical_of_shape?_eq_none hshape]
  | some s =>
    cases t <;> cases hshape
    rw [ValueType.canonical]
    have hsame : ∀ u : ValueType, u.same (.shape s.canonical) = u.same (.shape s) := fun u => by
      rw [Bool.eq_iff_iff, ValueType.same_iff, ValueType.same_iff, ValueType.canonical,
        ValueType.canonical, Shape.canonical_canonical]
    cases v <;> simp only [conformsTo, hsame]

theorem Value.conformsTo_shape_iff {v : Value} {s : Shape} :
    v.conformsTo (.shape s) = true ↔
      v.isNull = true ∨ ∃ source, Source.ofValue? v = some source := by
  have hother : ∀ u : ValueType, u.shape? = none → u.same (.shape s) = false := by
    intro u hu
    rw [Bool.eq_false_iff, Ne, ValueType.same_iff, ValueType.canonical_of_shape?_eq_none hu]
    rintro rfl
    cases hu
  cases v with
  | null => exact iff_of_true rfl (.inl rfl)
  | map m => exact iff_of_true rfl (.inr ⟨.map m, rfl⟩)
  | object o => exact iff_of_true rfl (.inr ⟨.object o, rfl⟩)
  | _ =>
    -- a plain value has a plain type, and refers to nothing
    refine iff_of_false (fun h => ?_) fun h => ?_
    · exact absurd (hother _ rfl) (Bool.ne_false_iff.2 h)
    · rcases h with h | ⟨source, h⟩ <;> cases h

theorem Member.isProperty_canonical (m : Member) : m.canonical.isProperty = m.isProperty := by
  obtain ⟨name, kind, optional⟩ := m
  cases kind <;> rfl

theorem Member.valueType_canonical (m : Member) :
    m.canonical.valueType = m.valueType.canonical := by
  obtain ⟨name, kind, optional⟩ := m
  cases kind with
  | property type writable => rfl
  | method signature => obtain ⟨params, returns⟩ := signature; rfl

/-! ## Which members are nested -/

namespace Inspector

variable {i : Inspector}

theorem shape_of_resolveValue {σ : Store} {wanted : ValueType} {found key : String} {v : Value}
    (h : i.resolveValue σ wanted found v = .nested key) : ∃ s, wanted = .shape s := by
  cases resolves_of_resolveValue h rfl with
  | nested hwanted => exact ⟨_, hwanted⟩

theorem shape_of_resolveMember {schema : Shape} {m : Member} {key : String}
    (h : i.resolveMember schema m = .nested key) : ∃ s w, m.kind = .property (.shape s) w := by
  have hresolves := i.resolvesMember_resolveMember schema m
  rw [h] at hresolves
  cases hresolves with
  | property hkind _ hproperty =>
    cases hproperty with
    | nested hwanted => exact ⟨_, _, hwanted ▸ hkind⟩

theorem shape_of_resolution {σ : Store} {source : Source} {m : Member} {key : String}
    (h : i.resolution σ source m = .nested key) : ∃ s w, m.kind = .property (.shape s) w := by
  cases source with
  | object o => exact shape_of_resolveMember h
  | map ref =>
    have hresolves := i.resolvesKey_resolution σ ref m
    rw [h] at hresolves
    cases hresolves with
    | @property wanted writable found v r hkind hvalue =>
      obtain ⟨s, rfl⟩ := shape_of_resolveValue hvalue
      exact ⟨s, writable, hkind⟩

end Inspector

namespace Adapter

variable {i : Inspector} {a : Adapter} {name : String} {e : PlanEntry}

/-- Each entry of the plan is the resolution of a member of a shape that is the same, against a
source as it was at some time or against a schema. -/
theorem IsPlanned.exists_entries (h : a.IsPlanned i) :
    ∃ (shape : Shape) (resolve : Member → Resolution), shape.same a.shape = true ∧
      a.plan.entries = shape.members.map (fun m => ⟨m, resolve m⟩) ∧
      ((∃ σ source, resolve = i.resolution σ source) ∨
        ∃ schema, resolve = i.resolveMember schema) := by
  obtain ⟨σ, hplan | ⟨o, shape, schema, _, hsame, _, hplan⟩⟩ := h.made
  · refine ⟨a.shape, i.resolution σ a.source, Shape.same_refl _, ?_, .inl ⟨σ, a.source, rfl⟩⟩
    rw [hplan, Inspector.entries_inspect]
  · refine ⟨shape, i.resolveMember schema, hsame, ?_, .inr ⟨schema, rfl⟩⟩
    rw [hplan]
    rfl

section Entries

variable {shape : Shape} {resolve : Member → Resolution} (hsame : shape.same a.shape = true)
  (hentries : a.plan.entries = shape.members.map fun m => ⟨m, resolve m⟩)

include hsame hentries

/-- The member of an entry is the one that the shape declares, but for the order in nested shapes
and their names. -/
theorem exists_member_of_entries (he : a.plan.entryFor? name = some e) :
    ∃ m, a.shape.member? name = some m ∧ e.member.canonical = m.canonical ∧
      e.resolution = resolve e.member := by
  rw [Plan.entryFor?, hentries, List.find?_map] at he
  obtain ⟨found, hfound, rfl⟩ := Option.map_eq_some_iff.1 he
  have hmember : shape.member? name = some found := hfound
  have hcanonical := Shape.map_canonical_member?_of_same hsame name
  rw [hmember, Option.map_some] at hcanonical
  obtain ⟨m, hm, heq⟩ := Option.map_eq_some_iff.1 hcanonical.symm
  exact ⟨m, hm, heq.symm, rfl⟩

end Entries

/-- Where inspection made the plan, the member of an entry is one that the shape declares. -/
theorem IsPlanned.exists_member (h : a.IsPlanned i) (he : a.plan.entryFor? name = some e) :
    ∃ m, a.shape.member? name = some m ∧ e.member.canonical = m.canonical := by
  obtain ⟨shape, resolve, hsame, hentries, _⟩ := h.exists_entries
  obtain ⟨m, hm, heq, _⟩ := exists_member_of_entries hsame hentries he
  exact ⟨m, hm, heq⟩

theorem IsPlanned.shape_of_nested (h : a.IsPlanned i) (he : a.plan.entryFor? name = some e)
    {key : String} (hnested : e.resolution = .nested key) :
    ∃ s, e.member.valueType = .shape s := by
  obtain ⟨shape, resolve, _, hentries, hresolve⟩ := h.exists_entries
  have hmem := (Plan.mem_of_entryFor? he).1
  rw [hentries] at hmem
  obtain ⟨m, _, rfl⟩ := List.mem_map.1 hmem
  have hshape : ∃ s w, m.kind = .property (.shape s) w := by
    rcases hresolve with ⟨σ, source, rfl⟩ | ⟨schema, rfl⟩
    · exact Inspector.shape_of_resolution hnested
    · exact Inspector.shape_of_resolveMember hnested
  obtain ⟨s, w, hkind⟩ := hshape
  exact ⟨s, by rw [Member.valueType, hkind]⟩

/-! ## What is read -/

theorem convert_eq_ok_iff {v w : Value} {t : ValueType} :
    a.convert v t = .ok w ↔ a.inspector.registry.convert v t = .ok w := by
  unfold convert
  split
  · rename_i result hresult
    rw [hresult]
    exact ⟨fun h => congrArg _ (Except.ok.inj h), fun h => congrArg _ (Except.ok.inj h)⟩
  · rename_i error herror
    rw [herror]
    exact ⟨nofun, nofun⟩

theorem convert_of_coerce {v w : Value} {t : ValueType} (h : a.coerce v t = .ok w) :
    a.inspector.registry.convert v t = .ok w := by
  unfold coerce at h
  split at h
  · rename_i hkeeps
    cases h
    exact Registry.convert_of_keeps (Bool.or_eq_true_iff.1 hkeeps)
  · split at h
    · exact convert_eq_ok_iff.1 h
    · cases h

theorem conformsTo_of_convert (hr : a.inspector.registry.IsSound) {v w : Value} {t : ValueType}
    (h : a.convert v t = .ok w) : w.conformsTo t = true := by
  unfold convert at h
  split at h
  · rename_i result hconvert
    cases h
    exact hr.conformsTo_of_convert hconvert
  · cases h

theorem conformsTo_of_coerce (hr : a.inspector.registry.IsSound) {v w : Value} {t : ValueType}
    (h : a.coerce v t = .ok w) : w.conformsTo t = true := by
  unfold coerce at h
  split at h
  · rename_i hkeeps
    cases h
    rcases Bool.or_eq_true_iff.1 hkeeps with hnull | hfits
    · cases v <;> cases hnull
      exact Value.null_conformsTo t
    · exact hfits
  · split at h
    · exact conformsTo_of_convert hr h
    · cases h

/-- Unless the member is nested, what is read fits the type that the entry has for it. -/
theorem conformsTo_of_read (h : a.plan.isSatisfiable = true)
    (hr : a.inspector.registry.IsSound) (he : a.plan.entryFor? name = some e)
    (hproperty : e.member.isProperty = true) (hnested : ∀ key, e.resolution ≠ .nested key)
    {σ : Store} {v : Value} (hread : a.read σ name = .ok v) :
    v.conformsTo e.member.valueType = true := by
  cases hresolution : e.resolution with
  | direct key =>
    rw [read_of_direct h he hproperty σ hresolution] at hread
    obtain ⟨w, _, hw⟩ := exists_of_bind_eq_ok hread
    exact conformsTo_of_coerce hr hw
  | convertible key stored declared =>
    rw [read_of_convertible h he hproperty σ hresolution] at hread
    obtain ⟨w, _, hw⟩ := exists_of_bind_eq_ok hread
    exact conformsTo_of_convert hr hw
  | nested key => exact absurd hresolution (hnested key)
  | absent =>
    rw [read_of_absent h he hproperty σ hresolution] at hread
    cases hread
    exact Value.null_conformsTo _
  | method key signature =>
    rw [read_of_method h he hproperty σ hresolution] at hread
    cases hread
  | unresolved reason =>
    have hresolved := Plan.isUnresolved_of_mem h (Plan.mem_of_entryFor? he).1
    rw [hresolution] at hresolved
    cases hresolved

/-- **What is read fits its type, but for plain values in place of a nested source.** With the
default converters and any options, however the adapter was obtained and whatever has become of the
source since: a value that is read is that of a declared property, and it is null or fits the type
declared for it exactly if the member is not resolved as a nested one or the value is null, a
mapping or an object. -/
theorem read_fits_iff (options : Options) (ha : Obtained ⟨Registry.default, options⟩ a) (σ : Store)
    {v : Value} (hread : a.read σ name = .ok v) :
    ∃ m, a.shape.member? name = some m ∧ m.isProperty = true ∧
      ((v.isNull = true ∨ v.conformsTo m.valueType = true) ↔
        ((∃ key, a.plan.resolution? name = some (.nested key)) →
          v.isNull = true ∨ ∃ source, Source.ofValue? v = some source)) := by
  have hplanned := ha.isPlanned
  have hsound : a.inspector.registry.IsSound := by
    rw [hplanned.inspector]
    exact Registry.isSound_default
  have hc : ∃ c, a.property name = .ok c := by
    obtain ⟨c, hc, _⟩ := exists_of_bind_eq_ok hread
    exact ⟨c, hc⟩
  obtain ⟨c, hc⟩ := hc
  obtain ⟨e, he, -, hproperty⟩ := exists_entryFor?_of_property hplanned.isSatisfiable hc
  obtain ⟨m, hm, hsame⟩ := hplanned.exists_member he
  have hfits : v.conformsTo m.valueType = v.conformsTo e.member.valueType := by
    rw [← Value.conformsTo_canonical, ← Member.valueType_canonical, ← hsame,
      Member.valueType_canonical, Value.conformsTo_canonical]
  refine ⟨m, hm, ?_, ?_⟩
  · rw [← Member.isProperty_canonical, ← hsame, Member.isProperty_canonical]
    exact hproperty
  · rw [hfits, Plan.resolution?_eq_map_entryFor?, he, Option.map_some]
    by_cases hnested : ∃ key, e.resolution = .nested key
    · obtain ⟨key, hkey⟩ := hnested
      obtain ⟨s, hs⟩ := hplanned.shape_of_nested he hkey
      rw [hs, Value.conformsTo_shape_iff, hkey]
      simp
    · rw [not_exists] at hnested
      have hconforms := conformsTo_of_read hplanned.isSatisfiable hsound he hproperty hnested hread
      refine iff_of_true (.inr hconforms) fun hsome => ?_
      obtain ⟨key, hkey⟩ := hsome
      exact absurd (Option.some.inj hkey) (hnested key)

/-- A box, whose inner part is a shape of its own. -/
def boxShape : Shape :=
  ⟨1, "Box", [⟨"Inner", .property (.shape ⟨0, "Inner", [⟨"Id", .property .integer true, false⟩]⟩)
    true, false⟩]⟩

/-- A dictionary for the inner part of a box, and one for the box that spells the name of it
differently. -/
def boxStore (id inner : Value) : Store where
  mappings := #[.dictionary (.ofEntries .ordinal [("Id", id)]),
    .dictionary (.ofEntries .ignoreCase [("inner", inner)])]
  objects := #[]
  nextTag := 0

/-- A box over the second dictionary, planned when this one held the first. -/
def box : Adapter :=
  let i : Inspector := ⟨Registry.default, {}⟩
  ⟨i, boxShape, .map (.cell 1),
    i.inspect (boxStore (.int 7) (.map (.cell 0))) boxShape (.map (.cell 1))⟩

theorem obtained_box : Obtained ⟨Registry.default, {}⟩ box :=
  .adapted [] (boxStore (.int 7) (.map (.cell 0))) boxShape (.map (.cell 1))
    (build_eq_ok_iff.2 ⟨by decide +kernel, rfl⟩)

/-- The inner part of the box keeps to its type when its number has become a text. -/
theorem read_fits_iff_converted :
    ∃ b, box.nested (boxStore (.int 7) (.map (.cell 0))) "Inner" = .ok b ∧
      Obtained ⟨Registry.default, {}⟩ b ∧
      b.read (boxStore (.text "8") .null) "Id" = .ok (.int 8) ∧
      ∃ m, b.shape.member? "Id" = some m ∧ m.isProperty = true ∧
        (((Value.int 8).isNull = true ∨ (Value.int 8).conformsTo m.valueType = true) ↔
          ((∃ key, b.plan.resolution? "Id" = some (.nested key)) →
            (Value.int 8).isNull = true ∨ ∃ source, Source.ofValue? (.int 8) = some source)) := by
  let σ := boxStore (.int 7) (.map (.cell 0))
  let i : Inspector := ⟨Registry.default, {}⟩
  let inner : Shape := ⟨0, "Inner", [⟨"Id", .property .integer true, false⟩]⟩
  let source : Source := .map (.view none (.cell 0) .ignoreCase)
  let b : Adapter := ⟨i, inner, source, i.inspect σ inner source⟩
  have hnested : box.nested σ "Inner" = .ok b := by with_unfolding_all rfl
  have hobtained := obtained_box.nested σ "Inner" hnested
  have hread : b.read (boxStore (.text "8") .null) "Id" = .ok (.int 8) := by
    with_unfolding_all rfl
  exact ⟨b, hnested, hobtained, hread, read_fits_iff {} hobtained _ hread⟩

/-- A number in place of the inner part is read as it is, though a shape is declared for it. -/
theorem nested_read_is_unchecked :
    Obtained ⟨Registry.default, {}⟩ box ∧
      box.read (boxStore (.int 7) (.int 5)) "Inner" = .ok (.int 5) ∧
      ∃ m, box.shape.member? "Inner" = some m ∧ m.isProperty = true ∧
        (Value.int 5).isNull = false ∧ (Value.int 5).conformsTo m.valueType = false :=
  ⟨obtained_box, by with_unfolding_all rfl, _, rfl, rfl, rfl, by decide +kernel⟩

end Adapter

end DuckTyping
