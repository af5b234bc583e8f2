import DuckTyping.Proofs.SatisfiedShapes
import DuckTyping.Proofs.ViewPaths

set_option autoImplicit false

/-!
# Plans depend on keys and types

Two dictionaries correspond if they have the same comparison and the same keys, none equal to
another ignoring case, and hold values of equal types under them; where these are mappings they
correspond again, and where they are objects the objects have the same schema. Mappings may hold
each other in a circle, so correspondence is a relation between addresses that every pair in it
bears out. Inspection makes one and the same plan for mappings that correspond: what is stored in
scalars and lists does not show in it, nor does the order of the entries.
-/

namespace DuckTyping

/-! ## Keys that no search confuses -/

namespace Dictionary

variable {d e : Dictionary} {c : KeyComparison} {key stored : String}

/-- No two keys are equal ignoring case. -/
def DistinctIgnoringCase (d : Dictionary) : Prop :=
  ∀ k ∈ d.keys, ∀ l ∈ d.keys, KeyComparison.ignoreCase.keysMatch k l = true → k = l

theorem resolveKey?_eq_some_iff (hd : d.DistinctIgnoringCase) :
    d.resolveKey? c key = some stored ↔ stored ∈ d.keys ∧ c.keysMatch stored key = true := by
  constructor
  · intro h
    exact ⟨mem_keys_of_resolveKey? h, keysMatch_of_resolveKey? h⟩
  · rintro ⟨hmem, hmatch⟩
    obtain ⟨found, hfound⟩ :=
      Option.isSome_iff_exists.1 (isSome_resolveKey?_iff.2 ⟨stored, hmem, hmatch⟩)
    -- what is found matches the key as well, hence the key stored
    have hboth : c.keysMatch found stored = true := by
      rw [KeyComparison.keysMatch_iff, KeyComparison.keysMatch_iff.1 hmatch,
        ← KeyComparison.keysMatch_iff]
      exact keysMatch_of_resolveKey? hfound
    have heq := hd found (mem_keys_of_resolveKey? hfound) stored hmem
      (KeyComparison.keysMatch_ignoreCase hboth)
    rw [hfound, heq]

/-- The dictionaries compare keys in the same way and have the same keys, none equal to another
ignoring case, and `A` relates the values that they hold under a key. -/
structure Corresponds (A : Value → Value → Prop) (d e : Dictionary) : Prop where
  comparison : d.comparison = e.comparison
  keys : ∀ key, key ∈ d.keys ↔ key ∈ e.keys
  distinct : d.DistinctIgnoringCase
  values : ∀ key v w, (key, v) ∈ d.entries.toList → (key, w) ∈ e.entries.toList → A v w

variable {A : Value → Value → Prop}

/-- Any comparison finds the same key in both. -/
theorem Corresponds.resolveKey?_eq (h : d.Corresponds A e) (c : KeyComparison) (key : String) :
    d.resolveKey? c key = e.resolveKey? c key := by
  have he : e.DistinctIgnoringCase := fun k hk l hl =>
    h.distinct k ((h.keys k).2 hk) l ((h.keys l).2 hl)
  refine Option.ext fun stored => ?_
  rw [resolveKey?_eq_some_iff h.distinct, resolveKey?_eq_some_iff he, h.keys]

theorem Corresponds.rel_get? (h : d.Corresponds A e) (key : String) :
    Option.Rel A (d.get? key) (e.get? key) := by
  rw [d.get?_eq_bind_resolveKey?, e.get?_eq_bind_resolveKey?, h.comparison, h.resolveKey?_eq]
  cases hstored : e.resolveKey? e.comparison key with
  | none => exact .none
  | some stored =>
    have hmem := mem_keys_of_resolveKey? hstored
    obtain ⟨⟨_, v⟩, hv, rfl⟩ := List.mem_map.1 ((h.keys stored).2 hmem)
    obtain ⟨⟨_, w⟩, hw, hkey⟩ := List.mem_map.1 hmem
    simp only at hkey
    subst hkey
    rw [Option.bind_some, Option.bind_some, get?_of_mem hv, get?_of_mem hw]
    exact .some (h.values _ v w hv hw)

end Dictionary

/-! ## Correspondence -/

/-- References to mappings that `R` relates, directly or through views with the same comparisons. -/
inductive MapRef.Parallel (R : Nat → Nat → Prop) : MapRef → MapRef → Prop
  | cell {a b : Nat} (h : R a b) : Parallel R (.cell a) (.cell b)
  | view {m n : MapRef} (s t : Option Nat) (c : KeyComparison) (h : Parallel R m n) :
      Parallel R (.view s m c) (.view t n c)

namespace Inspector

variable {i : Inspector} {σ τ : Store}

/-- The same schema: the same set of members, and if names are matched ignoring case, those whose
names differ in case alone in the same order. -/
structure SameSchema (i : Inspector) (s t : Shape) : Prop where
  same : s.same t = true
  order : i.options.fuzzy = true → ∀ name : String,
    (s.members.filter fun m => KeyComparison.ignoreCase.keysMatch m.name name).map
        Member.canonical =
      (t.members.filter fun m => KeyComparison.ignoreCase.keysMatch m.name name).map
        Member.canonical

/-- Two values are alike for inspection: of one type, and if they are mappings or objects, alike in
what they refer to. -/
inductive Alike (i : Inspector) (σ τ : Store) (R : MapRef → MapRef → Prop) : Value → Value → Prop
  | plain {v w : Value} (htype : v.valueType = w.valueType) (hv : Source.ofValue? v = none)
      (hw : Source.ofValue? w = none) : Alike i σ τ R v w
  | map {m n : MapRef} (h : R m n) : Alike i σ τ R (.map m) (.map n)
  | object {o p : ObjectRef} (htype : o.typeName = p.typeName)
      (hschema : i.SameSchema (σ.schema o) (τ.schema p)) : Alike i σ τ R (.object o) (.object p)

/-- The relation between the addresses of two stores leads from dictionaries to dictionaries that
correspond, and hold mappings that it relates. -/
def IsCorrespondence (i : Inspector) (σ τ : Store) (R : Nat → Nat → Prop) : Prop :=
  ∀ a b, R a b → ∃ d e, σ.mapping a = .dictionary d ∧ τ.mapping b = .dictionary e ∧
    d.Corresponds (i.Alike σ τ (MapRef.Parallel R)) e

/-! ## Objects -/

theorem SameSchema.refl (s : Shape) : i.SameSchema s s := ⟨s.same_refl, fun _ _ => rfl⟩

/-- Of members whose names are pairwise different ignoring case at most one matches a name. -/
theorem length_filter_le_one {ms : List Member}
    (h : ms.Pairwise fun m n => KeyComparison.ignoreCase.keysMatch m.name n.name = false)
    (name : String) :
    (ms.filter fun m => KeyComparison.ignoreCase.keysMatch m.name name).length ≤ 1 := by
  have hnone : (ms.filter fun m => KeyComparison.ignoreCase.keysMatch m.name name).Pairwise
      fun _ _ => False := by
    refine (h.filter _).imp_of_mem fun {m n} hm hn hdiffer => ?_
    have hmatch := KeyComparison.keysMatch_congr_right (List.mem_filter.1 hn).2 m.name
    rw [hdiffer, (List.mem_filter.1 hm).2] at hmatch
    cases hmatch
  generalize ms.filter (fun m => KeyComparison.ignoreCase.keysMatch m.name name) = found at hnone
  match found, hnone with
  | [], _ => simp
  | [_], _ => simp
  | _ :: _ :: _, hnone => exact (List.rel_of_pairwise_cons hnone List.mem_cons_self).elim

/-- Where no two members of a schema have names equal ignoring case, any order of them is the same
schema. -/
theorem sameSchema_of_same {s t : Shape} (h : s.same t = true)
    (hdistinct : s.members.Pairwise fun m n =>
      KeyComparison.ignoreCase.keysMatch m.name n.name = false) : i.SameSchema s t := by
  refine ⟨h, fun _ name => ?_⟩
  have hperm : (s.members.map Member.canonical).Perm (t.members.map Member.canonical) := by
    have hs := sortByName_perm Member.name (s.members.map Member.canonical)
    have ht := sortByName_perm Member.name (t.members.map Member.canonical)
    rw [← Shape.members_canonical, Shape.same_iff.1 h, Shape.members_canonical] at hs
    exact hs.symm.trans ht
  have hfilter : ∀ ms : List Member,
      (ms.filter fun m => KeyComparison.ignoreCase.keysMatch m.name name).map Member.canonical =
        (ms.map Member.canonical).filter fun m =>
          KeyComparison.ignoreCase.keysMatch m.name name := by
    intro ms
    simp only [List.filter_map, Function.comp_def, Member.canonical_name]
  have hlength := length_filter_le_one hdistinct name
  rw [← List.length_map Member.canonical, hfilter] at hlength
  rw [hfilter, hfilter]
  have hfound := hperm.filter fun m => KeyComparison.ignoreCase.keysMatch m.name name
  generalize (s.members.map Member.canonical).filter _ = found at hlength hfound
  match found, hlength with
  | [], _ => exact hfound.nil_eq
  | [_], _ => exact (List.perm_singleton.1 hfound.symm).symm

theorem SameSchema.findMember?_eq {s t : Shape} (h : i.SameSchema s t) (name : String) :
    (i.findMember? s name).map Member.canonical = (i.findMember? t name).map Member.canonical := by
  have hexact := Shape.map_canonical_member?_of_same h.same name
  unfold findMember?
  cases hs : s.member? name with
  | some m =>
    rw [hs, Option.map_some] at hexact
    obtain ⟨n, ht, hmn⟩ := Option.map_eq_some_iff.1 hexact.symm
    rw [ht]
    exact congrArg some hmn.symm
  | none =>
    rw [hs, Option.map_none] at hexact
    rw [Option.map_eq_none_iff.1 hexact.symm]
    cases hfuzzy : i.options.fuzzy with
    | false => rfl
    | true =>
      have horder := congrArg List.head? (h.order hfuzzy name)
      simpa only [List.head?_map, List.head?_filter, if_true] using horder

theorem SameSchema.resolveMember_eq {s t : Shape} (h : i.SameSchema s t) (m : Member) :
    (i.resolveMember s m).canonical = (i.resolveMember t m).canonical :=
  resolveMember_congr rfl (h.findMember?_eq m.name)

/-- Plans for objects with the same schema have the same verdict and name the same paths. -/
theorem SameSchema.inspectSchema_eq {s t : Shape} (h : i.SameSchema s t) (shape : Shape) :
    (i.inspectSchema shape s).isSatisfiable = (i.inspectSchema shape t).isSatisfiable ∧
      (i.inspectSchema shape s).unresolved = (i.inspectSchema shape t).unresolved := by
  have hentry : ∀ m : Member, (PlanEntry.mk m (i.resolveMember s m)).canonical =
      (PlanEntry.mk m (i.resolveMember t m)).canonical := fun m =>
    congrArg (PlanEntry.mk m.canonical) (h.resolveMember_eq m)
  have hunresolved : ∀ m : Member,
      (i.resolveMember s m).isUnresolved = (i.resolveMember t m).isUnresolved := fun m => by
    rw [← Resolution.isUnresolved_canonical, h.resolveMember_eq m,
      Resolution.isUnresolved_canonical]
  constructor
  · simp only [Plan.isSatisfiable, inspectSchema, List.any_map, Function.comp_def, hunresolved]
  · simp only [Plan.unresolved, inspectSchema, List.flatMap_map]
    congr 1
    funext m
    rw [← PlanEntry.unresolved_canonical, hentry m, PlanEntry.unresolved_canonical]

/-! ## Mappings -/

theorem Alike.valueType_eq {R : MapRef → MapRef → Prop} {v w : Value} (h : i.Alike σ τ R v w) :
    v.valueType = w.valueType := by
  cases h with
  | plain htype => exact htype
  | map => rfl
  | object htype => exact congrArg ValueType.object htype

section Correspondence

variable {R : Nat → Nat → Prop} {m n : MapRef}

/-- Below the views of parallel references lie dictionaries that correspond. -/
theorem IsCorrespondence.exists_dictionaries (hR : i.IsCorrespondence σ τ R)
    (h : m.Parallel R n) :
    ∃ a b d e, σ.mapping a = .dictionary d ∧ τ.mapping b = .dictionary e ∧
      (MapRef.cell a).Shows m ∧ (MapRef.cell b).Shows n ∧
      d.Corresponds (i.Alike σ τ (MapRef.Parallel R)) e := by
  induction h with
  | @cell a b h =>
    obtain ⟨d, e, hd, he, hde⟩ := hR a b h
    exact ⟨a, b, d, e, hd, he, .self, .self, hde⟩
  | view s t c _ ih =>
    obtain ⟨a, b, d, e, hd, he, hm, hn, hde⟩ := ih
    exact ⟨a, b, d, e, hd, he, .through s c hm, .through t c hn, hde⟩

theorem IsCorrespondence.exists_comparison? (hR : i.IsCorrespondence σ τ R)
    (h : m.Parallel R n) : ∃ c, σ.comparison? m = some c ∧ τ.comparison? n = some c := by
  cases h with
  | @cell a b h =>
    obtain ⟨d, e, hd, he, hde⟩ := hR a b h
    refine ⟨d.comparison, by simp [Store.comparison?, hd, Mapping.comparison?], ?_⟩
    simp [Store.comparison?, he, Mapping.comparison?, hde.comparison]
  | view s t c _ => exact ⟨c, rfl, rfl⟩

theorem IsCorrespondence.resolveKey?_eq (hR : i.IsCorrespondence σ τ R) (h : m.Parallel R n)
    (c : KeyComparison) (key : String) : σ.resolveKey? m c key = τ.resolveKey? n c key := by
  obtain ⟨a, b, d, e, hd, he, hm, hn, hde⟩ := hR.exists_dictionaries h
  rw [Store.resolveKey?_of_shows hd hm, Store.resolveKey?_of_shows he hn, hde.resolveKey?_eq]

theorem IsCorrespondence.alike_rewrap (hR : i.IsCorrespondence σ τ R) {v w : Value}
    (h : i.Alike σ τ (MapRef.Parallel R) v w) (c : KeyComparison) :
    i.Alike σ τ (MapRef.Parallel R) (σ.rewrap c v) (τ.rewrap c w) := by
  cases h with
  | plain htype hv hw =>
    have hself : ∀ (ρ : Store) (u : Value), Source.ofValue? u = none → ρ.rewrap c u = u := by
      intro ρ u hu
      cases u <;> first | rfl | cases hu
    rw [hself σ v hv, hself τ w hw]
    exact .plain htype hv hw
  | @map m n h =>
    obtain ⟨c', hm, hn⟩ := hR.exists_comparison? h
    simp only [Store.rewrap, hm, hn]
    split
    · exact .map h
    · exact .map (.view none none c h)
  | object htype hschema => exact .object htype hschema

theorem rel_map {A B : Value → Value → Prop} {x y : Option Value} {f g : Value → Value}
    (h : Option.Rel A x y) (hfg : ∀ v w, A v w → B (f v) (g w)) :
    Option.Rel B (x.map f) (y.map g) := by
  cases h with
  | none => exact .none
  | some hvw => exact .some (hfg _ _ hvw)

theorem IsCorrespondence.rel_get? (hR : i.IsCorrespondence σ τ R) (h : m.Parallel R n)
    (key : String) :
    Option.Rel (i.Alike σ τ (MapRef.Parallel R)) (σ.get? m key) (τ.get? n key) := by
  induction h generalizing key with
  | @cell a b h =>
    obtain ⟨d, e, hd, he, hde⟩ := hR a b h
    simp only [Store.get?, hd, he, Mapping.get?]
    exact hde.rel_get? key
  | @view m n s t c h ih =>
    obtain ⟨c', hm, hn⟩ := hR.exists_comparison? h
    simp only [Store.get?, hm, hn, hR.resolveKey?_eq h]
    refine rel_map ?_ fun _ _ halike => hR.alike_rewrap halike c
    split
    · exact ih key
    · cases τ.resolveKey? n c key with
      | none => exact .none
      | some stored => exact ih stored

/-! ## Plans -/

theorem IsCorrespondence.exists_view (hR : i.IsCorrespondence σ τ R) (h : m.Parallel R n) :
    ∃ c, i.view σ m = ⟨m, c⟩ ∧ i.view τ n = ⟨n, c⟩ := by
  obtain ⟨c, hm, hn⟩ := hR.exists_comparison? h
  have hsensitive : σ.isCaseSensitive m = τ.isCaseSensitive n := by
    simp only [Store.isCaseSensitive, hm, hn]
  refine ⟨_, rfl, ?_⟩
  simp only [view, Store.wrap, hsensitive]

/-- Values that are alike resolve a property in the same way, if mappings do that are parallel. -/
theorem resolveValue_of_alike {wanted : ValueType} {v w : Value}
    (h : i.Alike σ τ (MapRef.Parallel R) v w)
    (hnested : ∀ s, wanted = .shape s → ∀ m n : MapRef, m.Parallel R n →
      i.inspect σ s (.map m) = i.inspect τ s (.map n)) (key : String) :
    i.resolveValue σ wanted key v = i.resolveValue τ wanted key w := by
  have hnull := Value.isNull_congr h.valueType_eq
  cases hshape : wanted.shape? with
  | none =>
    rw [resolveValue_of_shape?_eq_none hshape, resolveValue_of_shape?_eq_none hshape, hnull,
      Value.conformsTo_congr h.valueType_eq, h.valueType_eq]
  | some s =>
    cases wanted <;> cases hshape
    unfold resolveValue
    cases h with
    | plain htype hv hw => simp only [hnull, hv, hw, htype]
    | @map m n h => simp only [hnull, Source.ofValue?, hnested s rfl m n h]
    | @object o p htype hschema =>
      obtain ⟨hsatisfiable, hunresolved⟩ := hschema.inspectSchema_eq s
      simp only [hnull, Source.ofValue?, inspect_object, hsatisfiable, hunresolved]

/-- Parallel references resolve a member in the same way, if parallel references resolve the
shape of a property in the same way. -/
theorem IsCorrespondence.resolution_eq (hR : i.IsCorrespondence σ τ R) (h : m.Parallel R n)
    {member : Member}
    (hnested : ∀ s w, member.kind = .property (.shape s) w → ∀ m n : MapRef, m.Parallel R n →
      i.inspect σ s (.map m) = i.inspect τ s (.map n)) :
    i.resolution σ (.map m) member = i.resolution τ (.map n) member := by
  obtain ⟨c, hm, hn⟩ := hR.exists_view h
  obtain ⟨name, kind, optional⟩ := member
  unfold resolution resolveKey
  simp only [hm, hn]
  have hkey : (View.mk m c).resolveKey? σ name = (View.mk n c).resolveKey? τ name :=
    hR.resolveKey?_eq h c name
  rw [hkey]
  cases (View.mk n c).resolveKey? τ name with
  | none => rfl
  | some key =>
    cases kind with
    | method signature => rfl
    | property wanted writable =>
      have hvalue : i.Alike σ τ (MapRef.Parallel R)
          (((View.mk m c).lookUp? σ key).getD .null)
          (((View.mk n c).lookUp? τ key).getD .null) := by
        have hrel := hR.rel_get? (.view none none c h) key
        unfold View.lookUp? View.ref
        generalize σ.get? (.view none m c) key = v at hrel ⊢
        generalize τ.get? (.view none n c) key = w at hrel ⊢
        cases hrel with
        | none => exact .plain rfl rfl rfl
        | some halike => exact halike
      refine resolveValue_of_alike hvalue ?_ key
      rintro s rfl
      exact hnested s writable rfl

/-- **Plans depend on keys and types alone.** Mappings that correspond, in one store or in two, get
equal plans for every shape. -/
theorem inspect_eq_of_parallel (hR : i.IsCorrespondence σ τ R) (shape : Shape)
    (h : m.Parallel R n) : i.inspect σ shape (.map m) = i.inspect τ shape (.map n) := by
  induction shape using Shape.nested_induction generalizing m n with
  | h shape ih =>
    have hentries :
        (i.inspect σ shape (.map m)).entries = (i.inspect τ shape (.map n)).entries := by
      rw [entries_inspect, entries_inspect]
      refine List.map_congr_left fun member hmember => ?_
      rw [hR.resolution_eq h fun s w hkind m n hmn => ih s ⟨member, hmember, w, hkind⟩ hmn]
    obtain ⟨c, hm, hn⟩ := hR.exists_view h
    obtain ⟨serial, name, members⟩ := shape
    unfold inspect at hentries ⊢
    simp only [hm, hn] at hentries ⊢
    rw [hentries]
    rfl

end Correspondence

/-- Each of two dictionaries holds itself. Scalars, list items and the order of the entries differ.
The schemas of the owners list their members in different orders; those of the peers have members
that differ in case alone and are one. -/
theorem inspect_eq_of_parallel_cyclic :
    let name : Member := ⟨"Name", .property .text false, false⟩
    let age : Member := ⟨"Age", .property .integer false, false⟩
    let object := fun members => HostObject.foreign ⟨⟨1, "User", members⟩, [], none, []⟩
    let peer := object [⟨"ID", .property .text false, false⟩, ⟨"Id", .property .any false, false⟩]
    let d := Dictionary.ofEntries .ignoreCase
      [("Id", .int 1), ("Tags", .list [.bool true]), ("Next", .map (.cell 0)),
        ("Owner", .object ⟨"User", 0⟩), ("Peer", .object ⟨"User", 1⟩)]
    let e := Dictionary.ofEntries .ignoreCase
      [("Owner", .object ⟨"User", 0⟩), ("Next", .map (.cell 1)), ("Tags", .list []),
        ("Id", .int 2), ("Peer", .object ⟨"User", 1⟩)]
    let σ : Store := ⟨#[.dictionary d], #[object [name, age], peer], 0⟩
    let τ : Store := ⟨#[default, .dictionary e], #[object [age, name], peer], 0⟩
    let i : Inspector := ⟨.default, { fuzzy := true }⟩
    let R := fun a b : Nat => a = 0 ∧ b = 1
    let owner : Shape := ⟨2, "Owner",
      [⟨"name", .property .text false, false⟩, ⟨"email", .property .text false, false⟩]⟩
    let node : Shape := ⟨3, "Node",
      [⟨"tags", .property .list false, false⟩, ⟨"owner", .property (.shape owner) false, false⟩]⟩
    let shape : Shape := ⟨4, "Ring",
      [⟨"id", .property .text false, false⟩, ⟨"next", .property (.shape node) false, false⟩]⟩
    i.IsCorrespondence σ τ R ∧ (MapRef.cell 0).Parallel R (.cell 1) ∧
      (i.inspect σ shape (.map (.cell 0))).unresolved = ["next.owner.email"] ∧
      i.inspect σ shape (.map (.cell 0)) = i.inspect τ shape (.map (.cell 1)) := by
  intro name age object peer d e σ τ i R owner node shape
  have hd : d.entries.toList =
      [("Id", .int 1), ("Tags", .list [.bool true]), ("Next", .map (.cell 0)),
        ("Owner", .object ⟨"User", 0⟩), ("Peer", .object ⟨"User", 1⟩)] := by
    with_unfolding_all rfl
  have he : e.entries.toList =
      [("Owner", .object ⟨"User", 0⟩), ("Next", .map (.cell 1)), ("Tags", .list []),
        ("Id", .int 2), ("Peer", .object ⟨"User", 1⟩)] := by
    with_unfolding_all rfl
  have howner : i.SameSchema (σ.schema ⟨"User", 0⟩) (τ.schema ⟨"User", 0⟩) := by
    refine sameSchema_of_same (by decide +kernel) ?_
    exact (List.pairwise_pair ..).2 (by decide +kernel)
  have hpeer : i.SameSchema (σ.schema ⟨"User", 1⟩) (τ.schema ⟨"User", 1⟩) := .refl peer.schema
  have hdistinct : d.DistinctIgnoringCase := by
    unfold Dictionary.DistinctIgnoringCase
    decide +kernel
  have hR : i.IsCorrespondence σ τ R := by
    rintro a b ⟨rfl, rfl⟩
    refine ⟨d, e, rfl, rfl, rfl, fun key => ?_, hdistinct, fun key v w hv hw => ?_⟩
    · simp only [Dictionary.keys, hd, he, List.map_cons, List.map_nil, List.mem_cons]
      tauto
    · simp only [hd, he, List.mem_cons, Prod.mk.injEq, List.not_mem_nil, or_false] at hv hw
      rcases hv with ⟨rfl, rfl⟩ | ⟨rfl, rfl⟩ | ⟨rfl, rfl⟩ | ⟨rfl, rfl⟩ | ⟨rfl, rfl⟩ <;>
        rcases hw with ⟨hkey, rfl⟩ | ⟨hkey, rfl⟩ | ⟨hkey, rfl⟩ | ⟨hkey, rfl⟩ | ⟨hkey, rfl⟩ <;>
        first
          | exact absurd hkey (by decide)
          | exact .plain rfl rfl rfl
          | exact .map (.cell ⟨rfl, rfl⟩)
          | exact .object rfl howner
          | exact .object rfl hpeer
  have hparallel : (MapRef.cell 0).Parallel R (.cell 1) := .cell ⟨rfl, rfl⟩
  exact ⟨hR, hparallel, by decide +kernel, inspect_eq_of_parallel hR shape hparallel⟩

end Inspector

end DuckTyping
