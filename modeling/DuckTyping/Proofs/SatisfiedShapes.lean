import DuckTyping.Conversion.Builtin
import DuckTyping.Proofs.ConformanceOrder
import DuckTyping.Proofs.PlanAgreement

set_option autoImplicit false

/-!
# Sources that satisfy a shape

A source satisfies a shape if inspection resolves every member of it, one by one. Whether it does
depends on the canonical form of the shape alone. Where no member is optional, a source that
satisfies a shape satisfies every shape that this one conforms to: a mapping, because what it holds
under a key then fits the wider type as well, and an object, because conformance carries over from
what it declares.
-/

namespace DuckTyping

theorem Source.isNull_of_ofValue? {v : Value} {source : Source} (h : ofValue? v = some source) :
    v.isNull = false := by
  cases v <;> first | rfl | cases h

namespace Inspector

variable {i : Inspector} {σ : Store}

/-- The source satisfies the shape. -/
def Satisfies (i : Inspector) (σ : Store) (source : Source) (shape : Shape) : Prop :=
  (i.inspect σ shape source).isSatisfiable = true

/-- How inspection resolves a member against a source. -/
def resolution (i : Inspector) (σ : Store) (source : Source) (m : Member) : Resolution :=
  match source with
  | .map ref => i.resolveKey σ m (i.view σ ref)
  | .object o => i.resolveMember (σ.schema o) m

theorem resolveKeys_eq_map (members : List Member) (view : View) :
    i.resolveKeys σ members view = members.map fun m => ⟨m, i.resolveKey σ m view⟩ := by
  induction members with
  | nil => rfl
  | cons m rest ih => rw [resolveKeys, ih, List.map_cons]

theorem entries_inspect (shape : Shape) (source : Source) :
    (i.inspect σ shape source).entries =
      shape.members.map fun m => ⟨m, i.resolution σ source m⟩ := by
  obtain ⟨serial, name, members⟩ := shape
  cases source with
  | map ref =>
    unfold inspect
    exact resolveKeys_eq_map members (i.view σ ref)
  | object o => rfl

theorem satisfies_iff {source : Source} {shape : Shape} :
    i.Satisfies σ source shape ↔
      ∀ m ∈ shape.members, (i.resolution σ source m).isUnresolved = false := by
  rw [Satisfies, Plan.isSatisfiable, entries_inspect, Bool.not_eq_true', List.any_map,
    List.any_eq_false]
  simp

/-! ## What a property asks of a value -/

/-- A property of a shape is resolved by null, and by a source that satisfies the shape. -/
theorem resolveValue_shape_iff {s : Shape} {key : String} {v : Value} :
    (i.resolveValue σ (.shape s) key v).isUnresolved = false ↔
      v.isNull = true ∨ ∃ source, Source.ofValue? v = some source ∧ i.Satisfies σ source s := by
  unfold resolveValue
  cases v.isNull with
  | true => simp [Resolution.isUnresolved]
  | false =>
    cases Source.ofValue? v with
    | none => simp [Resolution.isUnresolved]
    | some source =>
      simp only [Satisfies, Bool.false_eq_true, ↓reduceIte, Option.some.injEq, exists_eq_left',
        false_or]
      cases (i.inspect σ s source).isSatisfiable <;> simp [Resolution.isUnresolved]

theorem resolveValue_any (key : String) (v : Value) :
    i.resolveValue σ .any key v = .direct key := by
  unfold resolveValue
  simp

theorem resolveValue_of_shape?_eq_none {wanted : ValueType} (hshape : wanted.shape? = none)
    (key : String) (v : Value) :
    i.resolveValue σ wanted key v =
      if v.isNull || v.conformsTo wanted then .direct key
      else i.resolveDiffering key v.valueType wanted := by
  cases wanted with
  | shape s => cases hshape
  | _ =>
    unfold resolveValue
    cases v.isNull <;> simp

/-- How a value that is found under a key resolves a property. -/
inductive Resolves (i : Inspector) (σ : Store) (wanted : ValueType) (key : String) (v : Value) :
    Resolution → Prop
  | direct (hkeeps : (v.isNull || v.conformsTo wanted) = true) :
      Resolves i σ wanted key v (.direct key)
  | convertible (hdiffers : (v.isNull || v.conformsTo wanted) = false)
      (hallowed : i.options.allowConversion = true)
      (hcan : i.registry.canConvert v.valueType wanted = true) :
      Resolves i σ wanted key v (.convertible key v.valueType wanted)
  | nested {s : Shape} {source : Source} (hwanted : wanted = .shape s)
      (hsource : Source.ofValue? v = some source) (hsatisfies : i.Satisfies σ source s) :
      Resolves i σ wanted key v (.nested key)

/-- A property is resolved in one of these ways, if it is. -/
theorem resolves_of_resolveValue {wanted : ValueType} {key : String} {v : Value} {r : Resolution}
    (hr : i.resolveValue σ wanted key v = r) (h : r.isUnresolved = false) :
    i.Resolves σ wanted key v r := by
  cases hshape : wanted.shape? with
  | some s =>
    cases wanted <;> cases hshape
    rw [← hr] at h
    rcases resolveValue_shape_iff.1 h with hnull | ⟨source, hsource, hsatisfies⟩
    · have hdirect : i.resolveValue σ (.shape s) key v = .direct key := by
        unfold resolveValue
        exact if_pos hnull
      rw [← hr, hdirect]
      exact .direct (by rw [hnull, Bool.true_or])
    · have hnull : v.isNull = false := Source.isNull_of_ofValue? hsource
      have hnested : i.resolveValue σ (.shape s) key v = .nested key := by
        unfold resolveValue
        simp only [hnull, hsource]
        exact if_pos hsatisfies
      rw [← hr, hnested]
      exact .nested rfl hsource hsatisfies
  | none =>
    rw [resolveValue_of_shape?_eq_none hshape] at hr
    split at hr
    · rename_i hkeeps
      rw [← hr]
      exact .direct hkeeps
    · rename_i hdiffers
      unfold resolveDiffering at hr
      split at hr
      · rename_i hcan
        obtain ⟨hallowed, hconverts⟩ := Bool.and_eq_true_iff.1 hcan
        rw [← hr]
        exact .convertible (Bool.not_eq_true _ ▸ hdiffers) hallowed hconverts
      · rw [← hr] at h
        cases h

theorem resolution_of_lookUp? {ref : MapRef} {name : String}
    {kind : MemberKind} {optional : Bool} {key : String} {v : Value}
    (hkey : (i.view σ ref).resolveKey? σ name = some key)
    (hstored : (i.view σ ref).lookUp? σ key = some v) :
    i.resolution σ (.map ref) ⟨name, kind, optional⟩ = i.resolveEntry σ kind key v := by
  unfold resolution resolveKey
  simp only [hkey, hstored, Option.getD_some]

theorem resolution_of_resolveKey?_eq_none {ref : MapRef}
    {name : String} {kind : MemberKind} {optional : Bool}
    (hkey : (i.view σ ref).resolveKey? σ name = none) :
    i.resolution σ (.map ref) ⟨name, kind, optional⟩ = resolveMissing optional := by
  unfold resolution resolveKey
  simp only [hkey]

/-- How a mapping resolves a member depends on the value that its name leads to, if any. -/
theorem resolution_map (ref : MapRef) (m : Member) :
    i.resolution σ (.map ref) m =
      match (i.view σ ref).resolveKey? σ m.name with
      | some key =>
        i.resolveEntry σ m.kind key (((i.view σ ref).lookUp? σ key).getD .null)
      | none => resolveMissing m.optional := by
  obtain ⟨name, kind, optional⟩ := m
  unfold resolution resolveKey
  rfl

/-- How a mapping resolves a member. -/
inductive ResolvesKey (i : Inspector) (σ : Store) (m : Member) : Resolution → Prop
  | absent (h : m.optional = true) : ResolvesKey i σ m .absent
  | missing : ResolvesKey i σ m (.unresolved .missing)
  | method : ResolvesKey i σ m (.unresolved .methodOnMapping)
  | property {wanted : ValueType} {writable : Bool} {key : String} {v : Value} {r : Resolution}
      (hkind : m.kind = .property wanted writable) (hvalue : i.resolveValue σ wanted key v = r) :
      ResolvesKey i σ m r

/-- A member resolves against a mapping in one of these ways. -/
theorem resolvesKey_resolution (i : Inspector) (σ : Store) (ref : MapRef) (m : Member) :
    i.ResolvesKey σ m (i.resolution σ (.map ref) m) := by
  rw [resolution_map]
  split
  · obtain ⟨name, kind, optional⟩ := m
    cases kind with
    | method signature => exact .method
    | property wanted writable => exact .property rfl rfl
  · unfold resolveMissing
    split
    · rename_i hoptional
      exact .absent hoptional
    · exact .missing

theorem valueType_of_resolution {ref : MapRef} {m : Member}
    {key : String} {stored declared : ValueType}
    (h : i.resolution σ (.map ref) m = .convertible key stored declared) :
    m.valueType = declared := by
  have hresolves := i.resolvesKey_resolution σ ref m
  rw [h] at hresolves
  cases hresolves with
  | property hkind hvalue =>
    cases resolves_of_resolveValue hvalue rfl
    rw [Member.valueType, hkind]

/-! ## Canonical shapes -/

theorem resolveValue_canonical {t : ValueType}
    (h : ∀ s, t = .shape s → ∀ source, i.Satisfies σ source s.canonical ↔ i.Satisfies σ source s)
    (key : String) (v : Value) :
    (i.resolveValue σ t.canonical key v).isUnresolved =
      (i.resolveValue σ t key v).isUnresolved := by
  cases hshape : t.shape? with
  | none => rw [ValueType.canonical_of_shape?_eq_none hshape]
  | some s =>
    cases t <;> cases hshape
    rw [ValueType.canonical, ← Bool.not_inj_iff, Bool.eq_iff_iff, Bool.not_eq_true',
      Bool.not_eq_true', resolveValue_shape_iff, resolveValue_shape_iff]
    simp only [h s rfl]

theorem isUnresolved_resolveFound_canonical (m found : Member) :
    (i.resolveFound m.canonical found).isUnresolved = (i.resolveFound m found).isUnresolved := by
  have htwice := i.resolveFound_canonical m.canonical found
  rw [Member.canonical_canonical, i.resolveFound_canonical m found] at htwice
  rw [← Resolution.isUnresolved_canonical, ← htwice, Resolution.isUnresolved_canonical]

theorem isUnresolved_resolution_canonical {m : Member}
    (h : ∀ s w, m.kind = .property (.shape s) w →
      ∀ source, i.Satisfies σ source s.canonical ↔ i.Satisfies σ source s) (source : Source) :
    (i.resolution σ source m.canonical).isUnresolved =
      (i.resolution σ source m).isUnresolved := by
  obtain ⟨name, kind, optional⟩ := m
  cases source with
  | map ref =>
    unfold resolution
    simp only [Member.canonical]
    unfold resolveKey
    cases (i.view σ ref).resolveKey? σ name with
    | none => rfl
    | some key =>
      cases kind with
      | method signature => rfl
      | property t w =>
        refine resolveValue_canonical ?_ key _
        rintro s rfl
        exact h s w rfl
  | object o =>
    unfold resolution resolveMember
    simp only [Member.canonical_name, Member.canonical_optional]
    cases i.findMember? (σ.schema o) name with
    | none => rfl
    | some found => exact isUnresolved_resolveFound_canonical ⟨name, kind, optional⟩ found

/-- Whether a shape is satisfied depends on its canonical form. -/
theorem satisfies_canonical (s : Shape) (source : Source) :
    i.Satisfies σ source s.canonical ↔ i.Satisfies σ source s := by
  induction s using Shape.nested_induction generalizing source with
  | h s ih =>
    rw [satisfies_iff, satisfies_iff, Shape.members_canonical]
    simp only [(sortByName_perm Member.name _).mem_iff, List.mem_map, forall_exists_index, and_imp,
      forall_apply_eq_imp_iff₂]
    refine forall₂_congr fun m hm => ?_
    rw [isUnresolved_resolution_canonical fun s w hkind => ih s ⟨m, hm, w, hkind⟩]

/-! ## Wider types -/

/-- A value that resolves a property resolves one of a wider type. -/
theorem resolveValue_of_isAssignable {a b : ValueType} (hab : a.isAssignable b = true)
    (hshape : ∀ s t, a = .shape s → b = .shape t → s.conforms t = true →
      ∀ source, i.Satisfies σ source s → i.Satisfies σ source t)
    {key : String} {v : Value} (h : (i.resolveValue σ a key v).isUnresolved = false) :
    (i.resolveValue σ b key v).isUnresolved = false := by
  rcases ValueType.isAssignable_iff.1 hab with hsame | rfl | ⟨s, t, rfl, rfl, hst⟩
  · rw [← resolveValue_canonical (fun s _ => satisfies_canonical s)] at h ⊢
    rw [← ValueType.same_iff.1 hsame]
    exact h
  · rw [resolveValue_any]
    rfl
  · refine resolveValue_shape_iff.2 ((resolveValue_shape_iff.1 h).imp_right ?_)
    rintro ⟨source, hsource, hsatisfies⟩
    exact ⟨source, hsource, hshape s t rfl rfl hst source hsatisfies⟩

/-- A property of a shape is resolved by a declared shape that conforms to it, and by a declared
type whose values are seen only when they are read. -/
theorem resolveProperty_shape_iff {s : Shape} {name : String} {declared : ValueType} :
    (i.resolveProperty name (.shape s) declared).isUnresolved = false ↔
      (∃ d, declared = .shape d ∧ d.conforms s = true) ∨ declared = .map ∨
        (∃ typeName, declared = .object typeName) ∨ declared = .any := by
  cases declared with
  | shape d =>
    rw [resolveProperty]
    cases hconforms : d.conforms s <;> simp [Resolution.isUnresolved, hconforms]
  | _ => simp [resolveProperty, Resolution.isUnresolved]

theorem resolveProperty_of_isAssignable {a b declared : ValueType} (hab : a.isAssignable b = true)
    (hneeds : ∀ s t, a = .shape s → b = .shape t → s.NeedsAll ∧ t.NeedsAll)
    {name : String} (h : (i.resolveProperty name a declared).isUnresolved = false) :
    (i.resolveProperty name b declared).isUnresolved = false := by
  rcases ValueType.isAssignable_iff.1 hab with hsame | rfl | ⟨s, t, rfl, rfl, hst⟩
  · rw [← Resolution.isUnresolved_canonical, ← resolveProperty_canonical] at h ⊢
    rw [← ValueType.same_iff.1 hsame]
    exact h
  · rfl
  · refine resolveProperty_shape_iff.2 ((resolveProperty_shape_iff.1 h).imp_left ?_)
    rintro ⟨d, rfl, hds⟩
    obtain ⟨hs, ht⟩ := hneeds s t rfl rfl
    exact ⟨d, rfl, Shape.conforms_trans hds hst fun hgap => hgap.not_needsAll hs ht⟩

/-! ## Members that stand for others -/

theorem resolveEntry_of_standsFor {wanted found : MemberKind} (hkind : wanted.StandsFor found)
    (hshape : ∀ s t v w, found = .property (.shape s) v → wanted = .property (.shape t) w →
      s.conforms t = true → ∀ source, i.Satisfies σ source s → i.Satisfies σ source t)
    {key : String} {v : Value} (h : (i.resolveEntry σ found key v).isUnresolved = false) :
    (i.resolveEntry σ wanted key v).isUnresolved = false := by
  cases hkind with
  | written hsame =>
    refine resolveValue_of_isAssignable (ValueType.isAssignable_of_same hsame) ?_ h
    rintro s t rfl rfl
    exact hshape s t _ _ rfl rfl
  | read hassignable =>
    refine resolveValue_of_isAssignable hassignable ?_ h
    rintro s t rfl rfl
    exact hshape s t _ _ rfl rfl
  | called => cases h

theorem resolveFound_of_standsFor {m s found : Member} (hkind : m.kind.StandsFor s.kind)
    (hneeds : ∀ r t v w, s.kind = .property (.shape r) v → m.kind = .property (.shape t) w →
      r.NeedsAll ∧ t.NeedsAll)
    (h : (i.resolveFound s found).isUnresolved = false) :
    (i.resolveFound m found).isUnresolved = false := by
  obtain ⟨name, kind, optional⟩ := m
  obtain ⟨sourceName, sourceKind, sourceOptional⟩ := s
  obtain ⟨foundName, foundKind, foundOptional⟩ := found
  simp only at hkind hneeds
  cases foundKind with
  | property declared writable =>
    cases hkind with
    | written hsame =>
      refine resolveProperty_of_isAssignable (ValueType.isAssignable_of_same hsame) ?_ h
      rintro r t rfl rfl
      exact hneeds r t _ _ rfl rfl
    | read hassignable =>
      refine resolveProperty_of_isAssignable hassignable ?_ h
      rintro r t rfl rfl
      exact hneeds r t _ _ rfl rfl
    | called => cases h
  | method declared =>
    cases hkind with
    | written => cases h
    | read => cases h
    | @called wanted between hsame =>
      have heq : wanted.same declared = between.same declared := by
        rw [Bool.eq_iff_iff, MethodSignature.same_iff, MethodSignature.same_iff,
          MethodSignature.same_iff.1 hsame]
      simp only [resolveFound] at h ⊢
      rw [heq]
      split at h
      · rename_i hfits
        rw [if_pos hfits]
        rfl
      · cases h

/-- A source resolves a member if it resolves one of the same name that it cannot do without and
that stands for it. -/
theorem resolution_of_standsFor {m s : Member} (hname : s.name = m.name)
    (hneeded : s.optional = false) (hkind : m.kind.StandsFor s.kind)
    (hshape : ∀ r t v w, s.kind = .property (.shape r) v → m.kind = .property (.shape t) w →
      r.conforms t = true → ∀ source, i.Satisfies σ source r → i.Satisfies σ source t)
    (hneeds : ∀ r t v w, s.kind = .property (.shape r) v → m.kind = .property (.shape t) w →
      r.NeedsAll ∧ t.NeedsAll)
    {source : Source} (h : (i.resolution σ source s).isUnresolved = false) :
    (i.resolution σ source m).isUnresolved = false := by
  obtain ⟨name, kind, optional⟩ := m
  obtain ⟨sourceName, sourceKind, sourceOptional⟩ := s
  simp only at hname hneeded hkind hshape
  subst hname hneeded
  cases source with
  | map ref =>
    unfold resolution resolveKey at h ⊢
    cases hkey : (i.view σ ref).resolveKey? σ sourceName with
    | none =>
      simp only [hkey] at h
      cases h
    | some key =>
      simp only [hkey] at h ⊢
      exact resolveEntry_of_standsFor hkind hshape h
  | object o =>
    unfold resolution resolveMember at h ⊢
    cases hfound : i.findMember? (σ.schema o) sourceName with
    | none =>
      simp only [hfound] at h
      cases h
    | some found =>
      simp only [hfound] at h ⊢
      exact resolveFound_of_standsFor hkind hneeds h

/-- **Static conformance is sound for inspection.** Where no member is optional at any depth, a
source of either kind that satisfies a shape satisfies every shape that this one conforms to, with
all converters and options. -/
theorem satisfiable_of_conforms (i : Inspector) (σ : Store) {s t : Shape} (hs : s.NeedsAll)
    (ht : t.NeedsAll) (h : s.conforms t = true) (source : Source)
    (hsatisfiable : (i.inspect σ s source).isSatisfiable = true) :
    (i.inspect σ t source).isSatisfiable = true := by
  induction t using Shape.nested_induction generalizing s source with
  | h t ih =>
    have hresolved := satisfies_iff.1 hsatisfiable
    refine satisfies_iff.2 fun m hm => ?_
    have hneeded := (Shape.needsAll_iff.1 ht).1 m hm
    rcases Member.isProvided_iff.1 (Shape.conforms_iff.1 h m hm) with
      ⟨_, hoptional⟩ | ⟨found, hfound, hfits⟩
    · rw [hneeded] at hoptional
      cases hoptional
    · obtain ⟨hmem, hname⟩ := Shape.mem_of_member? hfound
      have hnested : ∀ r t' v w, found.kind = .property (.shape r) v →
          m.kind = .property (.shape t') w → t.Nests t' ∧ r.NeedsAll ∧ t'.NeedsAll := by
        intro r t' v w hr ht'
        have hnests : t.Nests t' := ⟨m, hm, w, ht'⟩
        exact ⟨hnests, (Shape.needsAll_iff.1 hs).2 r ⟨found, hmem, v, hr⟩,
          (Shape.needsAll_iff.1 ht).2 t' hnests⟩
      refine resolution_of_standsFor hname ((Shape.needsAll_iff.1 hs).1 found hmem)
        (MemberKind.isProvidedBy_iff.1 hfits) ?_ ?_ (hresolved found hmem)
      · intro r t' v w hr ht' hconforms other hother
        obtain ⟨hnests, hneedsr, hneedst⟩ := hnested r t' v w hr ht'
        exact ih t' hnests hneedsr hneedst hconforms other hother
      · intro r t' v w hr ht'
        exact (hnested r t' v w hr ht').2

/-- A person at an address, with the number of the house still to be converted from a text, in
dictionaries of both comparisons. -/
theorem satisfiable_of_conforms_nested :
    let usual : Shape := ⟨0, "Usual", [⟨"Street", .property .text false, false⟩,
      ⟨"Number", .property .integer false, false⟩]⟩
    let short : Shape := ⟨1, "Short", [⟨"Street", .property .any false, false⟩]⟩
    let s : Shape := ⟨2, "Person", [⟨"Address", .property (.shape usual) false, false⟩]⟩
    let t : Shape := ⟨3, "Person", [⟨"Address", .property (.shape short) false, false⟩]⟩
    let σ : Store := ⟨#[.dictionary (.ofEntries .ordinal
        [("street", .text "Main"), ("NUMBER", .text "7")]),
      .dictionary (.ofEntries .ignoreCase [("address", .map (.cell 0))])], #[], 0⟩
    let i : Inspector := ⟨Registry.default, {}⟩
    s.NeedsAll ∧ t.NeedsAll ∧ s.conforms t = true ∧
      (i.inspect σ s (.map (.cell 1))).isSatisfiable = true ∧
      (i.inspect σ t (.map (.cell 1))).isSatisfiable = true := by
  intro usual short s t σ i
  have husual : usual.NeedsAll := by
    refine Shape.needsAll_iff.2 ⟨by decide, fun r hr => ?_⟩
    simp [Shape.Nests, usual] at hr
  have hshort : short.NeedsAll := by
    refine Shape.needsAll_iff.2 ⟨by decide, fun r hr => ?_⟩
    simp [Shape.Nests, short] at hr
  have hs : s.NeedsAll := by
    refine Shape.needsAll_iff.2 ⟨by decide, fun r hr => ?_⟩
    have hnested : usual = r := by simpa [Shape.Nests, s] using hr
    exact hnested ▸ husual
  have ht : t.NeedsAll := by
    refine Shape.needsAll_iff.2 ⟨by decide, fun r hr => ?_⟩
    have hnested : short = r := by simpa [Shape.Nests, t] using hr
    exact hnested ▸ hshort
  have hconforms : s.conforms t = true := by decide +kernel
  have hsatisfiable : (i.inspect σ s (.map (.cell 1))).isSatisfiable = true := by decide +kernel
  exact ⟨hs, ht, hconforms, hsatisfiable,
    satisfiable_of_conforms i σ hs ht hconforms (.map (.cell 1)) hsatisfiable⟩

end Inspector

end DuckTyping
