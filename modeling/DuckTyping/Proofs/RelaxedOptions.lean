import DuckTyping.Proofs.SatisfiedShapes
import DuckTyping.Proofs.ViewPaths

set_option autoImplicit false

/-!
# Relaxing the options never loses a source

Options that match names ignoring case, that allow conversion, and a registry that converts between
more kinds accept every source that they accepted before, if the shape has no optional members. A
name that is found literally is found all the same, since a literal match is preferred, and what is
found is the same stored value. Only the view through which a nested mapping is seen may have come
to ignore case, so what is compared are two references to one dictionary of which the second is at
least as tolerant as the first.
-/

namespace DuckTyping

theorem MapRef.Shows.trans {l m n : MapRef} (hlm : l.Shows m) (hmn : m.Shows n) : l.Shows n := by
  induction hmn with
  | self => exact hlm
  | through tag c _ ih => exact .through tag c ih

/-! ## References to one dictionary -/

/-- The second comparison is the first, or ignores case. -/
def KeyComparison.RelaxedBy (c c' : KeyComparison) : Prop := c' = c ∨ c' = .ignoreCase

/-- A key that a comparison finds is found by a looser one. -/
theorem Dictionary.resolveKey?_of_relaxedBy {d : Dictionary} {c c' : KeyComparison}
    (h : c.RelaxedBy c') {key stored : String} (hstored : d.resolveKey? c key = some stored) :
    d.resolveKey? c' key = some stored := by
  rcases h with rfl | rfl
  · exact hstored
  · cases c with
    | ignoreCase => exact hstored
    | ordinal =>
      have heq : stored = key := KeyComparison.keysMatch_iff.1 (keysMatch_of_resolveKey? hstored)
      subst heq
      exact resolveKey?_of_mem (mem_keys_of_resolveKey? hstored) _

/-- Two references to one dictionary, perhaps through views, of which the second compares keys like
the first or ignores case. -/
structure MapRef.RelaxedBy (σ : Store) (m n : MapRef) : Prop where
  shown : ∃ a, (MapRef.cell a).Shows m ∧ (MapRef.cell a).Shows n
  comparison : ∃ c c', σ.comparison? m = some c ∧ σ.comparison? n = some c' ∧ c.RelaxedBy c'

/-- One object, or two references to one dictionary of which the second is no stricter. -/
inductive Source.RelaxedBy (σ : Store) : Source → Source → Prop
  | map {m n : MapRef} (h : m.RelaxedBy σ n) : RelaxedBy σ (.map m) (.map n)
  | object (o : ObjectRef) : RelaxedBy σ (.object o) (.object o)

/-- Values of one type; if they are sources, the second is no stricter. -/
structure Value.RelaxedBy (σ : Store) (v w : Value) : Prop where
  valueType : v.valueType = w.valueType
  source : Option.Rel (Source.RelaxedBy σ) (Source.ofValue? v) (Source.ofValue? w)

theorem Value.relaxedBy_self_of_map?_eq_none (σ : Store) {v : Value} (h : v.map? = none) :
    v.RelaxedBy σ v := by
  refine ⟨rfl, ?_⟩
  cases v with
  | map m => cases h
  | object o => exact .some (.object o)
  | _ => exact .none

theorem Value.SeenAs.eq_or_shows {x v : Value} (h : x.SeenAs v) :
    (x.map? = none ∧ v = x) ∨ ∃ m n, x = .map m ∧ v = .map n ∧ m.Shows n := by
  cases h with
  | same =>
    cases x with
    | map m => exact .inr ⟨m, m, rfl, rfl, .self⟩
    | _ => exact .inl ⟨rfl, rfl⟩
  | map hshows => exact .inr ⟨_, _, rfl, rfl, hshows⟩

namespace Store

variable {σ : Store} {m n : MapRef} {c c' : KeyComparison}

theorem HoldsDictionaries.relaxedBy_self (hσ : σ.HoldsDictionaries) (m : MapRef) :
    m.RelaxedBy σ m := by
  obtain ⟨d, a, hd, hshows⟩ := hσ.exists_underlies m
  obtain ⟨c, hc, _⟩ := get?_of_shows hd hshows
  exact ⟨⟨a, hshows, hshows⟩, c, c, hc, hc, .inl rfl⟩

theorem HoldsDictionaries.relaxedBy_self_source (hσ : σ.HoldsDictionaries) (source : Source) :
    source.RelaxedBy σ source := by
  cases source with
  | map m => exact .map (hσ.relaxedBy_self m)
  | object o => exact .object o

theorem HoldsDictionaries.resolveKey?_of_relaxedBy (hσ : σ.HoldsDictionaries) (h : m.RelaxedBy σ n)
    (hc : c.RelaxedBy c') {key stored : String} (hkey : σ.resolveKey? m c key = some stored) :
    σ.resolveKey? n c' key = some stored := by
  obtain ⟨a, hm, hn⟩ := h.shown
  obtain ⟨d, hd⟩ := hσ.exists_mapping a
  rw [resolveKey?_of_shows hd hm] at hkey
  rw [resolveKey?_of_shows hd hn]
  exact Dictionary.resolveKey?_of_relaxedBy hc hkey

/-- Of two views of one value, the second is no stricter if its comparison is not. -/
theorem HoldsDictionaries.relaxedBy_of_seenAs (hσ : σ.HoldsDictionaries) (hc : c.RelaxedBy c')
    {x v w : Value} (hv : x.SeenAs v) (hw : x.SeenAs w)
    (hcv : ∀ m, v = .map m → σ.comparison? m = some c)
    (hcw : ∀ n, w = .map n → σ.comparison? n = some c') : v.RelaxedBy σ w := by
  obtain ⟨hmap, rfl⟩ | ⟨base, m, rfl, rfl, hm⟩ := hv.eq_or_shows
  · obtain ⟨_, rfl⟩ | ⟨base, n, rfl, _, _⟩ := hw.eq_or_shows
    · exact Value.relaxedBy_self_of_map?_eq_none σ hmap
    · cases hmap
  · obtain ⟨hmap, _⟩ | ⟨_, n, hbase, rfl, hn⟩ := hw.eq_or_shows
    · cases hmap
    · cases hbase
      obtain ⟨_, a, _, hshows⟩ := hσ.exists_underlies base
      exact ⟨rfl, .some (.map
        ⟨⟨a, hshows.trans hm, hshows.trans hn⟩, c, c', hcv m rfl, hcw n rfl, hc⟩)⟩

/-- Under a key that a view finds it looks up a value, and a looser view one that is no stricter.
-/
theorem HoldsDictionaries.exists_lookUp?_of_relaxedBy (hσ : σ.HoldsDictionaries)
    (h : m.RelaxedBy σ n) (hc : c.RelaxedBy c') {key stored : String}
    (hkey : σ.resolveKey? m c key = some stored) :
    ∃ v w, (View.mk m c).lookUp? σ stored = some v ∧ (View.mk n c').lookUp? σ stored = some w ∧
      v.RelaxedBy σ w := by
  obtain ⟨a, hm, hn⟩ := h.shown
  obtain ⟨d, hd⟩ := hσ.exists_mapping a
  rw [resolveKey?_of_shows hd hm] at hkey
  have hstored := Dictionary.mem_keys_of_resolveKey? hkey
  obtain ⟨x, v, hx, hv, hxv⟩ :=
    lookUp?_of_resolveKey? hd hm (Dictionary.resolveKey?_of_mem hstored c)
  obtain ⟨y, w, hy, hw, hyw⟩ :=
    lookUp?_of_resolveKey? hd hn (Dictionary.resolveKey?_of_mem hstored c')
  have hxy : x = y := by
    have hgetx := Dictionary.get?_of_mem hx
    rw [Dictionary.get?_of_mem hy] at hgetx
    exact (Option.some.inj hgetx).symm
  subst hxy
  -- each view hands out the stored value; a mapping declares the comparison of its view
  refine ⟨v, w, hv, hw, hσ.relaxedBy_of_seenAs hc hxv hyw ?_ ?_⟩
  · rintro p rfl
    exact comparison?_of_get?_view hv
  · rintro q rfl
    exact comparison?_of_get?_view hw

end Store

namespace Inspector

variable {i j : Inspector} {σ : Store}

/-- The second configuration matches names ignoring case and allows conversion wherever the first
does, and converts between every two kinds that the first converts between. -/
structure RelaxedBy (i j : Inspector) : Prop where
  fuzzy : i.options.fuzzy = true → j.options.fuzzy = true
  allowConversion : i.options.allowConversion = true → j.options.allowConversion = true
  conversion : ∀ a b : TypeKind,
    (i.registry.find? a b).isSome = true → (j.registry.find? a b).isSome = true

theorem RelaxedBy.resolveDiffering (hij : i.RelaxedBy j) {source : String}
    {found wanted : ValueType}
    (h : (i.resolveDiffering source found wanted).isUnresolved = false) :
    (j.resolveDiffering source found wanted).isUnresolved = false := by
  unfold Inspector.resolveDiffering at h ⊢
  split at h
  · rename_i hcan
    obtain ⟨hallowed, hconverts⟩ := Bool.and_eq_true_iff.1 hcan
    rw [hij.allowConversion hallowed, Registry.canConvert, hij.conversion _ _ hconverts]
    rfl
  · cases h

/-! ## Objects -/

theorem RelaxedBy.findMember? (hij : i.RelaxedBy j) {schema : Shape} {name : String}
    {found : Member} (h : i.findMember? schema name = some found) :
    j.findMember? schema name = some found := by
  unfold Inspector.findMember? at h ⊢
  cases hexact : schema.member? name with
  | some m =>
    rw [hexact] at h
    exact h
  | none =>
    rw [hexact] at h
    simp only at h ⊢
    split at h
    · rename_i hfuzzy
      rw [if_pos (hij.fuzzy hfuzzy)]
      exact h
    · cases h

theorem RelaxedBy.resolveProperty (hij : i.RelaxedBy j) {source : String}
    {wanted declared : ValueType}
    (h : (i.resolveProperty source wanted declared).isUnresolved = false) :
    (j.resolveProperty source wanted declared).isUnresolved = false := by
  cases hshape : wanted.shape? with
  | some s =>
    cases wanted <;> cases hshape
    exact resolveProperty_shape_iff.2 (resolveProperty_shape_iff.1 h)
  | none =>
    by_cases hany : wanted = .any
    · subst hany
      rfl
    · rw [resolveProperty_of_shape?_eq_none _ hshape hany] at h ⊢
      split at h
      · rename_i hassignable
        rw [if_pos hassignable]
        rfl
      · rename_i hassignable
        rw [if_neg hassignable]
        exact hij.resolveDiffering h

theorem RelaxedBy.resolveFound (hij : i.RelaxedBy j) {m found : Member}
    (h : (i.resolveFound m found).isUnresolved = false) :
    (j.resolveFound m found).isUnresolved = false := by
  obtain ⟨name, kind, optional⟩ := m
  obtain ⟨source, foundKind, foundOptional⟩ := found
  cases kind with
  | method wanted =>
    cases foundKind with
    | method declared => exact h
    | property declared w => cases h
  | property wanted writable =>
    cases foundKind with
    | method declared => cases h
    | property declared w => exact hij.resolveProperty h

/-- A member that a source cannot do without stays resolved against a schema. -/
theorem RelaxedBy.resolveMember (hij : i.RelaxedBy j) {schema : Shape} {m : Member}
    (hneeded : m.optional = false)
    (h : (i.resolveMember schema m).isUnresolved = false) :
    (j.resolveMember schema m).isUnresolved = false := by
  unfold Inspector.resolveMember at h ⊢
  cases hfound : i.findMember? schema m.name with
  | none =>
    rw [hfound] at h
    simp only [resolveMissing, hneeded] at h
    cases h
  | some found =>
    rw [hfound] at h
    rw [hij.findMember? hfound]
    exact hij.resolveFound h

/-! ## Mappings -/

theorem RelaxedBy.exists_views (hij : i.RelaxedBy j) {m n : MapRef} (h : m.RelaxedBy σ n) :
    ∃ c c', i.view σ m = ⟨m, c⟩ ∧ j.view σ n = ⟨n, c'⟩ ∧ c.RelaxedBy c' := by
  obtain ⟨c, c', hc, hc', hloose⟩ := h.comparison
  -- the comparison of a view, if names are matched as the mapping itself does and if not
  have hview : ∀ (k : Inspector) (p : MapRef) (own : KeyComparison),
      σ.comparison? p = some own →
        k.view σ p = ⟨p, if k.options.fuzzy then .ignoreCase else own⟩ := by
    intro k p own hown
    unfold view Store.wrap
    cases k.options.fuzzy with
    | true => rfl
    | false => simp [Store.isCaseSensitive, hown]
  refine ⟨_, _, hview i m c hc, hview j n c' hc', ?_⟩
  cases hi : i.options.fuzzy with
  | true =>
    rw [hij.fuzzy hi]
    exact .inr rfl
  | false =>
    cases j.options.fuzzy with
    | true => exact .inr rfl
    | false => exact hloose

/-- A value resolves a property that it resolved before, if nested sources do. -/
theorem RelaxedBy.resolveValue (hij : i.RelaxedBy j) {wanted : ValueType} {v w : Value}
    (hvw : v.RelaxedBy σ w)
    (hnested : ∀ s, wanted = .shape s → ∀ source source' : Source, source.RelaxedBy σ source' →
      i.Satisfies σ source s → j.Satisfies σ source' s)
    {key : String} (h : (i.resolveValue σ wanted key v).isUnresolved = false) :
    (j.resolveValue σ wanted key w).isUnresolved = false := by
  have hnull := Value.isNull_congr hvw.valueType
  cases hshape : wanted.shape? with
  | some s =>
    cases wanted <;> cases hshape
    refine resolveValue_shape_iff.2 ((resolveValue_shape_iff.1 h).imp (hnull ▸ ·) ?_)
    rintro ⟨source, hsource, hsatisfies⟩
    have hrel := hvw.source
    rw [hsource] at hrel
    cases hsource' : Source.ofValue? w with
    | none =>
      rw [hsource'] at hrel
      cases hrel
    | some source' =>
      rw [hsource'] at hrel
      cases hrel with
      | some hloose => exact ⟨source', rfl, hnested s rfl source source' hloose hsatisfies⟩
  | none =>
    rw [resolveValue_of_shape?_eq_none hshape] at h ⊢
    rw [← hnull, ← Value.conformsTo_congr hvw.valueType, ← hvw.valueType]
    split at h
    · rename_i hkeeps
      rw [if_pos hkeeps]
      rfl
    · rename_i hdiffers
      rw [if_neg hdiffers]
      exact hij.resolveDiffering h

/-- A member that a source cannot do without stays resolved, if nested sources satisfy the shape
of a property that they satisfied before. -/
theorem RelaxedBy.resolution (hij : i.RelaxedBy j) (hσ : σ.HoldsDictionaries) {m : Member}
    (hneeded : m.optional = false)
    (hnested : ∀ s w, m.kind = .property (.shape s) w → ∀ source source' : Source,
      source.RelaxedBy σ source' → i.Satisfies σ source s → j.Satisfies σ source' s)
    {source source' : Source} (hsource : source.RelaxedBy σ source')
    (h : (i.resolution σ source m).isUnresolved = false) :
    (j.resolution σ source' m).isUnresolved = false := by
  cases hsource with
  | object o => exact hij.resolveMember hneeded h
  | @map p q hpq =>
    obtain ⟨c, c', hi, hj, hloose⟩ := hij.exists_views hpq
    obtain ⟨name, kind, optional⟩ := m
    simp only at hneeded
    subst hneeded
    unfold Inspector.resolution resolveKey at h ⊢
    simp only [hi] at h
    simp only [hj]
    cases hkey : (View.mk p c).resolveKey? σ name with
    | none =>
      rw [hkey] at h
      cases h
    | some key =>
      have hkey' : (View.mk q c').resolveKey? σ name = some key :=
        hσ.resolveKey?_of_relaxedBy hpq hloose hkey
      obtain ⟨v, w, hv, hw, hvw⟩ := hσ.exists_lookUp?_of_relaxedBy hpq hloose hkey
      rw [hkey] at h
      simp only [hv, Option.getD_some] at h
      simp only [hkey', hw, Option.getD_some]
      cases kind with
      | method signature => cases h
      | property wanted writable =>
        refine hij.resolveValue hvw ?_ h
        rintro s rfl
        exact hnested s writable rfl

/-- A source satisfies a shape without optional members if it is no stricter than one that
satisfied it before. -/
theorem RelaxedBy.satisfies (hij : i.RelaxedBy j) (hσ : σ.HoldsDictionaries) {shape : Shape}
    (hshape : shape.NeedsAll) {source source' : Source} (hsource : source.RelaxedBy σ source')
    (h : i.Satisfies σ source shape) : j.Satisfies σ source' shape := by
  induction shape using Shape.nested_induction generalizing source source' with
  | h shape ih =>
    obtain ⟨hneeded, hnested⟩ := Shape.needsAll_iff.1 hshape
    rw [satisfies_iff] at h ⊢
    intro m hm
    refine hij.resolution hσ (hneeded m hm) ?_ hsource (h m hm)
    intro s w hkind source source' hsource hsatisfies
    have hs : shape.Nests s := ⟨m, hm, w, hkind⟩
    exact ih s hs (hnested s hs) hsource hsatisfies

/-- **Relaxing the options never loses a source.** A mapping or an object over a store of
dictionaries that satisfies a shape without optional members, at any depth, satisfies it under
every configuration that is more relaxed. -/
theorem isSatisfiable_of_relaxedBy (hij : i.RelaxedBy j) (hσ : σ.HoldsDictionaries) {shape : Shape}
    (hshape : shape.NeedsAll) {source : Source}
    (h : (i.inspect σ shape source).isSatisfiable = true) :
    (j.inspect σ shape source).isSatisfiable = true :=
  hij.satisfies hσ hshape (hσ.relaxedBy_self_source source) h

/-- A number to be converted, beside a key that differs in case alone, in the innermost of three
dictionaries of both comparisons. Names come to be matched ignoring case, and the one converter is
joined by others. -/
theorem isSatisfiable_of_relaxedBy_nested :
    let user : HostObject :=
      .foreign ⟨⟨1, "User", [⟨"Name", .property .text false, false⟩]⟩, [], none, []⟩
    let σ : Store := ⟨#[.dictionary (.ofEntries .ordinal [("ID", .null), ("Id", .int 1)]),
      .dictionary (.ofEntries .ignoreCase [("Inner", .map (.cell 0)), ("By", .object ⟨"User", 0⟩)]),
      .dictionary (.ofEntries .ordinal [("Outer", .map (.cell 1))])], #[user], 0⟩
    let i : Inspector :=
      ⟨⟨[Conversion.textConverter .integer Conversion.readInteger]⟩, { fuzzy := false }⟩
    let j : Inspector := ⟨.default, { fuzzy := true }⟩
    let inner : Shape := ⟨2, "Inner", [⟨"Id", .property .text false, false⟩]⟩
    let author : Shape := ⟨3, "Author", [⟨"Name", .property .text false, false⟩]⟩
    let outer : Shape := ⟨4, "Outer", [⟨"Inner", .property (.shape inner) false, false⟩,
      ⟨"By", .property (.shape author) false, false⟩]⟩
    let shape : Shape := ⟨5, "Entry", [⟨"Outer", .property (.shape outer) false, false⟩]⟩
    i.RelaxedBy j ∧ σ.HoldsDictionaries ∧ shape.NeedsAll ∧
      (i.inspect σ shape (.map (.cell 2))).isSatisfiable = true ∧
      (j.inspect σ shape (.map (.cell 2))).isSatisfiable = true := by
  intro user σ i j inner author outer shape
  have hij : i.RelaxedBy j := by
    refine ⟨by decide, by decide, fun a b => ?_⟩
    cases a <;> cases b <;> decide +kernel
  have hσ : σ.HoldsDictionaries := by
    intro m hm
    simp only [σ, List.mem_toArray, List.mem_cons, List.not_mem_nil, or_false] at hm
    rcases hm with rfl | rfl | rfl <;> exact ⟨_, rfl⟩
  have hinner : inner.NeedsAll := by
    refine Shape.needsAll_iff.2 ⟨by decide, fun r hr => ?_⟩
    simp [Shape.Nests, inner] at hr
  have hauthor : author.NeedsAll := by
    refine Shape.needsAll_iff.2 ⟨by decide, fun r hr => ?_⟩
    simp [Shape.Nests, author] at hr
  have houter : outer.NeedsAll := by
    refine Shape.needsAll_iff.2 ⟨by decide, fun r hr => ?_⟩
    obtain ⟨m, hm, w, hkind⟩ := hr
    simp only [outer, List.mem_cons, List.not_mem_nil, or_false] at hm
    rcases hm with rfl | rfl
    · cases hkind
      exact hinner
    · cases hkind
      exact hauthor
  have hshape : shape.NeedsAll := by
    refine Shape.needsAll_iff.2 ⟨by decide, fun r hr => ?_⟩
    have hnested : outer = r := by simpa [Shape.Nests, shape] using hr
    exact hnested ▸ houter
  have hsatisfiable : (i.inspect σ shape (.map (.cell 2))).isSatisfiable = true := by
    decide +kernel
  exact ⟨hij, hσ, hshape, hsatisfiable, isSatisfiable_of_relaxedBy hij hσ hshape hsatisfiable⟩

end Inspector

end DuckTyping
