import DuckTyping.Proofs.CanonicalForm
import Mathlib.Data.List.Nodup
import Mathlib.Logic.Relation

set_option autoImplicit false

/-!
# Conformance as an order

Conformance is reflexive, and it carries over a shape in the middle unless that leaves a gap. A gap
comes from an optional member: where the middle lacks a member that the target does not need, the
source may have one of that name that does not fit; and where the middle declares a member that it
need not have, the source may lack it although the target needs it. Such a gap may also lie between
the shapes of a property that is only read.
-/

namespace DuckTyping

/-! ## Shapes in shapes -/

namespace Shape

/-- The second shape is the type of a property of the first. -/
def Nests (s t : Shape) : Prop :=
  ∃ m ∈ s.members, ∃ writable, m.kind = .property (.shape t) writable

theorem sizeOf_lt_of_nests {s t : Shape} (h : s.Nests t) : sizeOf t < sizeOf s := by
  obtain ⟨⟨name, kind, optional⟩, hm, writable, hkind⟩ := h
  obtain ⟨serial, shapeName, members⟩ := s
  have hmember := List.sizeOf_lt_of_mem hm
  simp only at hkind
  subst hkind
  simp only [Shape.mk.sizeOf_spec, Member.mk.sizeOf_spec, MemberKind.property.sizeOf_spec,
    ValueType.shape.sizeOf_spec] at hmember ⊢
  omega

/-- What holds of a shape as soon as it holds of the shapes of its properties holds of every shape.
-/
theorem nested_induction {P : Shape → Prop} (h : ∀ s, (∀ t, s.Nests t → P t) → P s) (s : Shape) :
    P s :=
  h s fun t ht =>
    have := sizeOf_lt_of_nests ht
    nested_induction h t
termination_by sizeOf s

/-- The second shape occurs in the first, at any depth of properties, or is the first. -/
def Occurs : Shape → Shape → Prop := Relation.ReflTransGen Shape.Nests

theorem sizeOf_le_of_occurs {s t : Shape} (h : s.Occurs t) : sizeOf t ≤ sizeOf s := by
  induction h with
  | refl => exact Nat.le_refl _
  | tail _ hstep ih => exact Nat.le_trans (Nat.le_of_lt (sizeOf_lt_of_nests hstep)) ih

/-- What occurs in a shape is the shape, or occurs in the shape of a property. -/
theorem occurs_iff {s t : Shape} : s.Occurs t ↔ s = t ∨ ∃ r, s.Nests r ∧ r.Occurs t :=
  Relation.ReflTransGen.cases_head_iff

theorem mem_of_member? {s : Shape} {n : String} {m : Member} (h : s.member? n = some m) :
    m ∈ s.members ∧ m.name = n := by
  have hname : (m.name == n) = true := List.find?_some (p := fun m : Member => m.name == n) h
  exact ⟨List.mem_of_find?_eq_some h, beq_iff_eq.1 hname⟩

theorem member?_of_mem {s : Shape} (hs : (s.members.map Member.name).Nodup) {m : Member}
    (hm : m ∈ s.members) : s.member? m.name = some m := by
  have hsome : (s.member? m.name).isSome = true := List.find?_isSome.2 ⟨m, hm, beq_self_eq_true _⟩
  obtain ⟨found, hfound⟩ := Option.isSome_iff_exists.1 hsome
  obtain ⟨hmem, hname⟩ := mem_of_member? hfound
  rw [hfound, List.inj_on_of_nodup_map hs hmem hm hname]

end Shape

/-! ## What conformance asks for -/

/-- A shape conforms if it provides every member of the target. -/
theorem Shape.conforms_iff {source target : Shape} :
    source.conforms target = true ↔ ∀ m ∈ target.members, m.isProvided source = true := by
  rw [Shape.conforms_eq_all, List.all_eq_true]

theorem Member.isProvided_iff {m : Member} {source : Shape} :
    m.isProvided source = true ↔
      (source.member? m.name = none ∧ m.optional = true) ∨
        ∃ found, source.member? m.name = some found ∧ m.kind.isProvidedBy found.kind = true := by
  obtain ⟨name, kind, optional⟩ := m
  rw [Member.isProvided]
  cases source.member? name with
  | none => simp
  | some found => simp

theorem Member.isProvidedBy_of_isProvided {m found : Member} {source : Shape}
    (h : m.isProvided source = true) (hfound : source.member? m.name = some found) :
    m.kind.isProvidedBy found.kind = true := by
  rcases Member.isProvided_iff.1 h with ⟨hnone, _⟩ | ⟨other, hother, hfits⟩
  · rw [hfound] at hnone
    cases hnone
  · rw [hfound] at hother
    cases hother
    exact hfits

theorem Member.optional_of_isProvided {m : Member} {source : Shape}
    (h : m.isProvided source = true) (hnone : source.member? m.name = none) :
    m.optional = true := by
  rcases Member.isProvided_iff.1 h with ⟨_, hoptional⟩ | ⟨found, hfound, _⟩
  · exact hoptional
  · rw [hnone] at hfound
    cases hfound

/-- How one kind of member can stand for another. -/
inductive MemberKind.StandsFor : MemberKind → MemberKind → Prop
  | written {t f : ValueType} (h : f.same t = true) :
      StandsFor (.property t true) (.property f true)
  | read {t f : ValueType} {writable : Bool} (h : f.isAssignable t = true) :
      StandsFor (.property t false) (.property f writable)
  | called {t f : MethodSignature} (h : f.same t = true) : StandsFor (.method t) (.method f)

theorem MemberKind.isProvidedBy_iff {wanted found : MemberKind} :
    wanted.isProvidedBy found = true ↔ wanted.StandsFor found := by
  constructor
  · intro h
    unfold MemberKind.isProvidedBy at h
    split at h
    · rename_i writable
      obtain ⟨rfl, hsame⟩ := Bool.and_eq_true_iff.1 h
      exact .written hsame
    · exact .read h
    · exact .called h
    · cases h
  · rintro (h | h | h)
    · exact Bool.and_eq_true_iff.2 ⟨rfl, h⟩
    · exact h
    · exact h

/-- A type can be read where the same type or every type is expected, and a shape where one is
expected that it conforms to. -/
theorem ValueType.isAssignable_iff {sub sup : ValueType} :
    sub.isAssignable sup = true ↔ sub.same sup = true ∨ sup = .any ∨
      ∃ s t, sub = .shape s ∧ sup = .shape t ∧ s.conforms t = true := by
  cases sup with
  | any => simp
  | shape t =>
    cases sub with
    | shape s => simp [ValueType.isAssignable_shape_shape, ValueType.same_shape]
    | _ => simp [ValueType.isAssignable]
  | _ => simp [ValueType.isAssignable]

theorem ValueType.isAssignable_of_same {a b : ValueType} (h : a.same b = true) :
    a.isAssignable b = true :=
  ValueType.isAssignable_iff.2 (.inl h)

theorem ValueType.isAssignable_congr_left {a b : ValueType} (h : a.same b = true) (c : ValueType) :
    a.isAssignable c = b.isAssignable c := by
  rw [← ValueType.isAssignable_canonical c a, ValueType.same_iff.1 h,
    ValueType.isAssignable_canonical]

theorem ValueType.isAssignable_congr_right {b c : ValueType} (h : b.same c = true) (a : ValueType) :
    a.isAssignable b = a.isAssignable c := by
  rw [← ValueType.isAssignable_canonical b a, ValueType.same_iff.1 h,
    ValueType.isAssignable_canonical]

/-! ## Reflexivity -/

theorem MemberKind.isProvidedBy_refl (k : MemberKind) : k.isProvidedBy k = true := by
  rw [MemberKind.isProvidedBy_iff]
  cases k with
  | property t writable =>
    cases writable with
    | true => exact .written (ValueType.same_refl t)
    | false => exact .read (ValueType.isAssignable_refl t)
  | method t => exact .called (MethodSignature.same_iff.2 rfl)

theorem Shape.conforms_refl {s : Shape} (hs : (s.members.map Member.name).Nodup) :
    s.conforms s = true := by
  refine Shape.conforms_iff.2 fun m hm => Member.isProvided_iff.2 (.inr ⟨m, ?_, ?_⟩)
  · exact Shape.member?_of_mem hs hm
  · exact m.kind.isProvidedBy_refl

theorem Shape.conforms_of_same {s t : Shape} (ht : (t.members.map Member.name).Nodup)
    (h : s.same t = true) : s.conforms t = true := by
  rw [← Shape.conforms_canonical t s, Shape.same_iff.1 h, Shape.conforms_canonical,
    Shape.conforms_refl ht]

/-! ## Transitivity -/

/-- The shape in the middle leaves a gap between the source and the target. -/
inductive Shape.Gap : Shape → Shape → Shape → Prop
  /-- the middle lacks an optional member of the target, and the source has one that does not fit -/
  | misfit {source middle target : Shape} {m found : Member} (hm : m ∈ target.members)
      (hoptional : m.optional = true) (hmiddle : middle.member? m.name = none)
      (hsource : source.member? m.name = some found)
      (h : m.kind.isProvidedBy found.kind = false) : Gap source middle target
  /-- the target needs a member that is optional in the middle and that the source lacks -/
  | lack {source middle target : Shape} {m between : Member} (hm : m ∈ target.members)
      (hneeded : m.optional = false) (hmiddle : middle.member? m.name = some between)
      (hoptional : between.optional = true) (hsource : source.member? m.name = none) :
      Gap source middle target
  /-- there is a gap between the shapes of a property that is only read -/
  | nested {source middle target r s t : Shape} {m between found : Member} {writable : Bool}
      (hm : m ∈ target.members) (hmiddle : middle.member? m.name = some between)
      (hsource : source.member? m.name = some found) (ht : m.kind = .property (.shape t) false)
      (hs : between.kind = .property (.shape s) false)
      (hr : found.kind = .property (.shape r) writable) (h : Gap r s t) :
      Gap source middle target

/-- There is a gap between types that are shapes. -/
def ValueType.Gap (a b c : ValueType) : Prop :=
  ∃ r s t, a = .shape r ∧ b = .shape s ∧ c = .shape t ∧ r.Gap s t

/-- No member of the shape is optional, nor of any shape that occurs in it. -/
def Shape.NeedsAll (s : Shape) : Prop := ∀ t, s.Occurs t → ∀ m ∈ t.members, m.optional = false

theorem Shape.needsAll_iff {s : Shape} :
    s.NeedsAll ↔ (∀ m ∈ s.members, m.optional = false) ∧ ∀ t, s.Nests t → t.NeedsAll := by
  constructor
  · intro h
    exact ⟨h s .refl, fun t ht r hr => h r (.head ht hr)⟩
  · rintro ⟨hs, hnested⟩ t ht
    rcases Shape.occurs_iff.1 ht with rfl | ⟨r, hr, hoccurs⟩
    · exact hs
    · exact hnested r hr t hoccurs

theorem Shape.Gap.not_needsAll {r s t : Shape} (h : r.Gap s t) (hs : s.NeedsAll) :
    ¬ t.NeedsAll := by
  induction h with
  | misfit hm hoptional =>
    intro ht
    have hneeded := ht _ .refl _ hm
    rw [hoptional] at hneeded
    cases hneeded
  | lack _ _ hmiddle hoptional =>
    have hneeded := hs _ .refl _ (Shape.mem_of_member? hmiddle).1
    rw [hoptional] at hneeded
    cases hneeded
  | nested hm hmiddle _ htarget hbetween _ _ ih =>
    intro ht
    exact ih ((Shape.needsAll_iff.1 hs).2 _ ⟨_, (Shape.mem_of_member? hmiddle).1, _, hbetween⟩)
      ((Shape.needsAll_iff.1 ht).2 _ ⟨_, hm, _, htarget⟩)

/-- Assignability is transitive where conformance is. -/
theorem ValueType.isAssignable_trans_of {a b c : ValueType} (hab : a.isAssignable b = true)
    (hbc : b.isAssignable c = true)
    (hshape : ∀ r s t, a = .shape r → b = .shape s → c = .shape t →
      r.conforms s = true → s.conforms t = true → r.conforms t = true) :
    a.isAssignable c = true := by
  rcases ValueType.isAssignable_iff.1 hbc with hsame | rfl | ⟨s, t, rfl, rfl, hst⟩
  · rw [← ValueType.isAssignable_congr_right hsame]
    exact hab
  · exact ValueType.isAssignable_any a
  · rcases ValueType.isAssignable_iff.1 hab with hsame | hany | ⟨r, s', rfl, hs, hrs⟩
    · rw [ValueType.isAssignable_congr_left hsame]
      exact hbc
    · cases hany
    · cases hs
      exact ValueType.isAssignable_iff.2
        (.inr (.inr ⟨r, t, rfl, rfl, hshape r s t rfl rfl rfl hrs hst⟩))

/-- Kinds of members that stand for one another do so over a third where conformance carries over
the shapes of properties that are only read. -/
theorem MemberKind.StandsFor.trans {wanted between found : MemberKind}
    (h : wanted.StandsFor between) (h' : between.StandsFor found)
    (hshape : ∀ r s t writable, found = .property (.shape r) writable →
      between = .property (.shape s) false → wanted = .property (.shape t) false →
      r.conforms s = true → s.conforms t = true → r.conforms t = true) :
    wanted.StandsFor found := by
  cases h with
  | @written t b h =>
    cases h' with
    | written h' =>
      exact .written (ValueType.same_iff.2
        ((ValueType.same_iff.1 h').trans (ValueType.same_iff.1 h)))
  | @read t b writable h =>
    cases h' with
    | written h' =>
      refine .read ?_
      rw [ValueType.isAssignable_congr_left h']
      exact h
    | read h' =>
      refine .read (ValueType.isAssignable_trans_of h' h ?_)
      rintro r s t rfl rfl rfl
      exact hshape r s t _ rfl rfl rfl
  | called h =>
    cases h' with
    | called h' =>
      exact .called (MethodSignature.same_iff.2
        ((MethodSignature.same_iff.1 h').trans (MethodSignature.same_iff.1 h)))

/-- **Conformance is transitive over a middle that leaves no gap.** -/
theorem Shape.conforms_trans {r s t : Shape} (hrs : r.conforms s = true)
    (hst : s.conforms t = true) (hgap : ¬ r.Gap s t) : r.conforms t = true := by
  induction t using Shape.nested_induction generalizing r s with
  | h t ih =>
    rw [Shape.conforms_iff]
    intro m hm
    rw [Member.isProvided_iff]
    rcases Member.isProvided_iff.1 (Shape.conforms_iff.1 hst m hm) with
      ⟨hmiddle, hoptional⟩ | ⟨between, hmiddle, hfits⟩
    · cases hsource : r.member? m.name with
      | none => exact .inl ⟨rfl, hoptional⟩
      | some found =>
        cases hfits : m.kind.isProvidedBy found.kind with
        | true => exact .inr ⟨found, rfl, hfits⟩
        | false => exact absurd (.misfit hm hoptional hmiddle hsource hfits) hgap
    · obtain ⟨hbetween, hname⟩ := Shape.mem_of_member? hmiddle
      have hprovided := Member.isProvided_iff.1 (Shape.conforms_iff.1 hrs between hbetween)
      rw [hname] at hprovided
      rcases hprovided with ⟨hsource, hoptional⟩ | ⟨found, hsource, hfits'⟩
      · cases hneeded : m.optional with
        | true => exact .inl ⟨hsource, rfl⟩
        | false => exact absurd (.lack hm hneeded hmiddle hoptional hsource) hgap
      · refine .inr ⟨found, hsource, MemberKind.isProvidedBy_iff.2 ?_⟩
        refine (MemberKind.isProvidedBy_iff.1 hfits).trans (MemberKind.isProvidedBy_iff.1 hfits') ?_
        intro r' s' t' writable hr hs ht hrs' hst'
        exact ih t' ⟨m, hm, false, ht⟩ hrs' hst' fun h =>
          hgap (.nested hm hmiddle hsource ht hs hr h)

theorem ValueType.isAssignable_trans {a b c : ValueType} (hab : a.isAssignable b = true)
    (hbc : b.isAssignable c = true) (hgap : ¬ a.Gap b c) : a.isAssignable c = true := by
  refine ValueType.isAssignable_trans_of hab hbc ?_
  rintro r s t rfl rfl rfl hrs hst
  exact Shape.conforms_trans hrs hst fun h => hgap ⟨r, s, t, rfl, rfl, rfl, h⟩

end DuckTyping
