import DuckTyping.Types.Conformance

set_option autoImplicit false

/-!
# Conformance sees canonical forms only

Sorting by name is stable, so a look-up by name finds the same item before and after it. The
canonical form of a type is its own canonical form, and every question about types that depends on
their members, sameness, the member of a name and conformance at any depth, has the same answer for
the types and for their canonical forms.
-/

namespace DuckTyping

/-! ## Sorting by name -/

section SortByName

variable {α : Type} (name : α → String)

theorem find?_insertByName (a : α) (l : List α) (n : String) :
    (insertByName name a l).find? (fun x => name x == n) =
      (a :: l).find? (fun x => name x == n) := by
  induction l with
  | nil => rfl
  | cons b rest ih =>
    rw [insertByName]
    split
    · rfl
    · rename_i hle
      -- The names of `a` and `b` differ, so at most one of the two is the item looked for.
      have hne : name a ≠ name b := fun h => hle (h ▸ String.le_refl _)
      cases hb : name b == n with
      | true =>
        have ha : (name a == n) = false :=
          beq_false_of_ne fun h => hne (h.trans (beq_iff_eq.1 hb).symm)
        rw [List.find?_cons, List.find?_cons, List.find?_cons, ha, hb]
      | false => rw [List.find?_cons, hb, ih, List.find?_cons, List.find?_cons, List.find?_cons, hb]

theorem find?_sortByName (l : List α) (n : String) :
    (sortByName name l).find? (fun x => name x == n) = l.find? (fun x => name x == n) := by
  induction l with
  | nil => rfl
  | cons a rest ih =>
    have hinsert := find?_insertByName name a (sortByName name rest) n
    rw [List.find?_cons, ih] at hinsert
    rw [List.find?_cons]
    exact hinsert

theorem pairwise_insertByName {a : α} {l : List α}
    (h : l.Pairwise fun x y => name x ≤ name y) :
    (insertByName name a l).Pairwise fun x y => name x ≤ name y := by
  induction l with
  | nil => exact List.pairwise_singleton _ _
  | cons b rest ih =>
    obtain ⟨hb, hrest⟩ := List.pairwise_cons.1 h
    rw [insertByName]
    split
    · rename_i hle
      refine List.pairwise_cons.2 ⟨fun x hx => ?_, h⟩
      rcases List.mem_cons.1 hx with rfl | hx
      · exact hle
      · exact String.le_trans hle (hb x hx)
    · rename_i hle
      refine List.pairwise_cons.2 ⟨fun x hx => ?_, ih hrest⟩
      rcases List.mem_cons.1 ((insertByName_perm name a rest).mem_iff.1 hx) with rfl | hx
      · exact (String.le_total _ _).resolve_left hle
      · exact hb x hx

theorem pairwise_sortByName (l : List α) :
    (sortByName name l).Pairwise fun x y => name x ≤ name y := by
  induction l with
  | nil => exact List.Pairwise.nil
  | cons a rest ih => exact pairwise_insertByName name ih

theorem sortByName_of_pairwise {l : List α} (h : l.Pairwise fun x y => name x ≤ name y) :
    sortByName name l = l := by
  induction l with
  | nil => rfl
  | cons a rest ih =>
    obtain ⟨ha, hrest⟩ := List.pairwise_cons.1 h
    rw [sortByName, List.foldr_cons, ← sortByName, ih hrest]
    cases rest with
    | nil => rfl
    | cons b rest =>
      have hle : name a ≤ name b := ha b List.mem_cons_self
      rw [insertByName, if_pos hle]

theorem sortByName_sortByName (l : List α) :
    sortByName name (sortByName name l) = sortByName name l :=
  sortByName_of_pairwise name (pairwise_sortByName name l)

end SortByName

/-- A map that keeps the names takes the item of a name to the item of that name, sorted or not. -/
theorem find?_sortByName_map {α β : Type} (name : α → String) (label : β → String) {f : α → β}
    (h : ∀ a, label (f a) = name a) (l : List α) (n : String) :
    (sortByName label (l.map f)).find? (fun b => label b == n) =
      (l.find? fun a => name a == n).map f := by
  have hname : (fun b => label b == n) ∘ f = fun a => name a == n := by
    funext a
    rw [Function.comp_apply, h]
  rw [find?_sortByName, List.find?_map, hname]

/-! ## Canonical forms -/

mutual

theorem ValueType.canonical_canonical : ∀ t : ValueType, t.canonical.canonical = t.canonical
  | .shape s => by
    rw [ValueType.canonical, ValueType.canonical, Shape.canonical_canonical s]
  | .any | .null | .text | .integer | .float | .boolean | .dateTime | .uuid | .enumeration _
  | .list | .map | .object _ => rfl

theorem MethodSignature.canonical_canonical :
    ∀ s : MethodSignature, s.canonical.canonical = s.canonical
  | ⟨params, returns⟩ => by
    rw [MethodSignature.canonical, MethodSignature.canonical, canonicalTypes_canonicalTypes params,
      ValueType.canonical_canonical returns]

theorem MemberKind.canonical_canonical : ∀ k : MemberKind, k.canonical.canonical = k.canonical
  | .property type writable => by
    rw [MemberKind.canonical, MemberKind.canonical, ValueType.canonical_canonical type]
  | .method signature => by
    rw [MemberKind.canonical, MemberKind.canonical, MethodSignature.canonical_canonical signature]

theorem Member.canonical_canonical : ∀ m : Member, m.canonical.canonical = m.canonical
  | ⟨name, kind, optional⟩ => by
    rw [Member.canonical, Member.canonical, MemberKind.canonical_canonical kind]

/-- The canonical form of a shape is its own canonical form. -/
theorem Shape.canonical_canonical : ∀ s : Shape, s.canonical.canonical = s.canonical
  | ⟨_, _, members⟩ => by
    have hmembers := canonicalMembers_canonicalMembers members
    rw [canonicalMembers_eq_map] at hmembers
    rw [Shape.canonical, Shape.canonical, canonicalMembers_eq_map,
      map_sortByName Member.canonical_name, hmembers, sortByName_sortByName]

theorem canonicalTypes_canonicalTypes :
    ∀ ts : List ValueType, canonicalTypes (canonicalTypes ts) = canonicalTypes ts
  | [] => rfl
  | t :: rest => by
    rw [canonicalTypes, canonicalTypes, ValueType.canonical_canonical t,
      canonicalTypes_canonicalTypes rest]

theorem canonicalMembers_canonicalMembers :
    ∀ ms : List Member, canonicalMembers (canonicalMembers ms) = canonicalMembers ms
  | [] => rfl
  | m :: rest => by
    rw [canonicalMembers, canonicalMembers, Member.canonical_canonical m,
      canonicalMembers_canonicalMembers rest]

end

theorem Shape.members_canonical (s : Shape) :
    s.canonical.members = sortByName Member.name (s.members.map Member.canonical) := by
  cases s
  rw [Shape.canonical, canonicalMembers_eq_map]

@[simp] theorem ValueType.kind_canonical (t : ValueType) : t.canonical.kind = t.kind := by
  cases t <;> rfl

/-- Only shapes have a canonical form other than themselves. -/
theorem ValueType.canonical_of_shape?_eq_none {t : ValueType} (h : t.shape? = none) :
    t.canonical = t := by
  cases t with
  | shape s => exact absurd h (Option.some_ne_none s)
  | _ => rfl

theorem Shape.member?_canonical (s : Shape) (n : String) :
    s.canonical.member? n = (s.member? n).map Member.canonical := by
  rw [Shape.member?, Shape.members_canonical,
    find?_sortByName_map Member.name _ Member.canonical_name]
  rfl

/-- Shapes that are the same have, up to canonical form, the same member of each name. -/
theorem Shape.map_canonical_member?_of_same {s t : Shape} (h : s.same t = true) (n : String) :
    (s.member? n).map Member.canonical = (t.member? n).map Member.canonical := by
  rw [← member?_canonical, same_iff.1 h, member?_canonical]

theorem Shape.exists_mem_of_same {s t : Shape} (h : s.same t = true) {m : Member}
    (hm : m ∈ s.members) : ∃ n ∈ t.members, n.canonical = m.canonical := by
  have hmem := List.mem_map_of_mem (f := Member.canonical) hm
  rw [← (sortByName_perm Member.name _).mem_iff, ← members_canonical, same_iff.1 h,
    members_canonical, (sortByName_perm Member.name _).mem_iff] at hmem
  exact List.mem_map.1 hmem

@[simp] theorem ValueType.same_canonical (a b : ValueType) :
    a.canonical.same b.canonical = a.same b := by
  rw [Bool.eq_iff_iff, ValueType.same_iff, ValueType.same_iff, ValueType.canonical_canonical,
    ValueType.canonical_canonical]

@[simp] theorem MethodSignature.same_canonical (a b : MethodSignature) :
    a.canonical.same b.canonical = a.same b := by
  rw [Bool.eq_iff_iff, MethodSignature.same_iff, MethodSignature.same_iff,
    MethodSignature.canonical_canonical, MethodSignature.canonical_canonical]

@[simp] theorem Shape.same_canonical (a b : Shape) : a.canonical.same b.canonical = a.same b := by
  rw [Bool.eq_iff_iff, Shape.same_iff, Shape.same_iff, Shape.canonical_canonical,
    Shape.canonical_canonical]

/-! ## Conformance -/

theorem ValueType.isAssignable_eq_same {sub sup : ValueType} (hany : sup ≠ .any)
    (hshape : sub.shape? = none ∨ sup.shape? = none) : sub.isAssignable sup = sub.same sup := by
  rw [ValueType.isAssignable, Bool.or_false]
  · exact hany
  · rintro target source rfl rfl
    rcases hshape with h | h <;> exact absurd h (Option.some_ne_none _)

/-- A type other than a shape is its own canonical form, so nothing is lost on either side. -/
theorem ValueType.isAssignable_canonical_of_shape?_eq_none {sup : ValueType}
    (h : sup.shape? = none) (sub : ValueType) :
    sub.canonical.isAssignable sup.canonical = sub.isAssignable sup := by
  have hsup : sup.canonical = sup := ValueType.canonical_of_shape?_eq_none h
  by_cases hany : sup = .any
  · rw [hsup, hany, ValueType.isAssignable_any, ValueType.isAssignable_any]
  · rw [ValueType.isAssignable_eq_same hany (.inr h), ← ValueType.same_canonical, hsup,
      ValueType.isAssignable_eq_same hany (.inr h)]

theorem Shape.conforms_canonical_eq_all (source target : Shape) :
    source.canonical.conforms target.canonical =
      target.members.all fun m => m.canonical.isProvided source.canonical := by
  rw [Shape.conforms_eq_all, Shape.members_canonical,
    (sortByName_perm Member.name _).all_eq, List.all_map]
  rfl

mutual

theorem ValueType.isAssignable_canonical :
    ∀ sup sub : ValueType, sub.canonical.isAssignable sup.canonical = sub.isAssignable sup
  | .shape target, sub => by
    cases hsub : sub.shape? with
    | some source =>
      cases sub <;> cases hsub
      rw [ValueType.canonical, ValueType.canonical, ValueType.isAssignable_shape_shape,
        ValueType.isAssignable_shape_shape, Shape.same_canonical,
        Shape.conforms_canonical target source]
    | none =>
      have hcanonical : sub.canonical.shape? = none := by
        rw [ValueType.canonical_of_shape?_eq_none hsub, hsub]
      rw [ValueType.isAssignable_eq_same ValueType.noConfusion (.inl hsub),
        ← ValueType.same_canonical sub,
        ValueType.isAssignable_eq_same ValueType.noConfusion (.inl hcanonical)]
  | .any, sub | .null, sub | .text, sub | .integer, sub | .float, sub | .boolean, sub
  | .dateTime, sub | .uuid, sub | .enumeration _, sub | .list, sub | .map, sub | .object _, sub =>
    ValueType.isAssignable_canonical_of_shape?_eq_none rfl sub

/-- Conformance of shapes is decided by their canonical forms. -/
theorem Shape.conforms_canonical :
    ∀ target source : Shape, source.canonical.conforms target.canonical = source.conforms target
  | ⟨serial, name, members⟩, source => by
    rw [Shape.conforms_canonical_eq_all, Shape.conforms_eq_all]
    exact allProvided_canonical members source

theorem allProvided_canonical : ∀ (members : List Member) (source : Shape),
    members.all (fun m => m.canonical.isProvided source.canonical) =
      members.all (·.isProvided source)
  | [], _ => rfl
  | m :: rest, source => by
    rw [List.all_cons, List.all_cons, Member.isProvided_canonical m source,
      allProvided_canonical rest source]

theorem Member.isProvided_canonical : ∀ (m : Member) (source : Shape),
    m.canonical.isProvided source.canonical = m.isProvided source
  | ⟨name, kind, optional⟩, source => by
    rw [Member.canonical, Member.isProvided, Member.isProvided, Shape.member?_canonical]
    cases source.member? name with
    | none => rfl
    | some found =>
      have hkind := MemberKind.isProvidedBy_canonical kind found.kind
      rw [← Member.canonical_kind] at hkind
      exact hkind

theorem MemberKind.isProvidedBy_canonical : ∀ wanted found : MemberKind,
    wanted.canonical.isProvidedBy found.canonical = wanted.isProvidedBy found
  | .property target true, .property source writable => by
    rw [MemberKind.canonical, MemberKind.canonical, MemberKind.isProvidedBy,
      MemberKind.isProvidedBy, ValueType.same_canonical]
  | .property target false, .property source _ => by
    rw [MemberKind.canonical, MemberKind.canonical, MemberKind.isProvidedBy,
      MemberKind.isProvidedBy, ValueType.isAssignable_canonical target source]
  | .method target, .method source => by
    rw [MemberKind.canonical, MemberKind.canonical, MemberKind.isProvidedBy,
      MemberKind.isProvidedBy, MethodSignature.same_canonical]
  | .property _ true, .method _ => rfl
  | .property _ false, .method _ => rfl
  | .method _, .property _ _ => rfl

end

end DuckTyping
