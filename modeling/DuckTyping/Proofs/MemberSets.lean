import DuckTyping.Proofs.ConformanceOrder
import Mathlib.Data.List.Forall2

set_option autoImplicit false

/-!
# Shapes as sets of members

Sorting by distinct names depends on nothing but the set of the items, so two declared shapes are
the same exactly when they have members of the same names and under each name members of the same
kind, with the same flags. The types in these members are again the same in this sense, down to the
innermost shapes, in properties as well as in the parameters and results of methods. Other names for
shapes and other orders of members, at any depth, make no difference.
-/

namespace DuckTyping

/-! ## Declared types -/

mutual

/-- Every shape in the type was declared. -/
inductive ValueType.Built : ValueType → Prop
  | plain {t : ValueType} (h : t.shape? = none) : ValueType.Built t
  | shape {s : Shape} (h : s.Built) : ValueType.Built (.shape s)

inductive MethodSignature.Built : MethodSignature → Prop
  | mk {params : List ValueType} {returns : ValueType} (hparams : ∀ p ∈ params, p.Built)
      (hreturns : returns.Built) : MethodSignature.Built ⟨params, returns⟩

inductive MemberKind.Built : MemberKind → Prop
  | property {type : ValueType} {writable : Bool} (h : type.Built) :
      MemberKind.Built (.property type writable)
  | method {signature : MethodSignature} (h : signature.Built) :
      MemberKind.Built (.method signature)

/-- The shape was declared with members whose types are declared in turn. -/
inductive Shape.Built : Shape → Prop
  | declare {serial : Nat} {name : String} {members : List Member} {s : Shape}
      (hmembers : ∀ m ∈ members, m.kind.Built) (h : Shape.declare serial name members = .ok s) :
      Shape.Built s

end

theorem Shape.Built.kind {s : Shape} (h : s.Built) {m : Member} (hm : m ∈ s.members) :
    m.kind.Built := by
  cases h with
  | declare hmembers hdeclare =>
    obtain ⟨rfl, _⟩ := Shape.declare_eq_ok_iff.1 hdeclare
    exact hmembers m hm

theorem Shape.Built.nodup {s : Shape} (h : s.Built) : (s.members.map Member.name).Nodup := by
  cases h with
  | declare _ hdeclare =>
    obtain ⟨rfl, hnames, _⟩ := Shape.declare_eq_ok_iff.1 hdeclare
    exact hnames

/-! ## Two readings of sameness -/

mutual

/-- The types differ in the names of shapes and in the order of their members at most. -/
inductive ValueType.Rearranged : ValueType → ValueType → Prop
  | refl (t : ValueType) : ValueType.Rearranged t t
  | shape {s t : Shape} (h : s.Rearranged t) : ValueType.Rearranged (.shape s) (.shape t)

inductive MethodSignature.Rearranged : MethodSignature → MethodSignature → Prop
  | mk {ps qs : List ValueType} {r t : ValueType}
      (hparams : List.Forall₂ ValueType.Rearranged ps qs) (hreturns : r.Rearranged t) :
      MethodSignature.Rearranged ⟨ps, r⟩ ⟨qs, t⟩

inductive Member.Rearranged : Member → Member → Prop
  | property {name : String} {a b : ValueType} {writable optional : Bool} (h : a.Rearranged b) :
      Member.Rearranged ⟨name, .property a writable, optional⟩
        ⟨name, .property b writable, optional⟩
  | method {name : String} {a b : MethodSignature} {optional : Bool} (h : a.Rearranged b) :
      Member.Rearranged ⟨name, .method a, optional⟩ ⟨name, .method b, optional⟩

/-- The shape is called something else, its members are put into another order, and the same is done
to the shapes in them. -/
inductive Shape.Rearranged : Shape → Shape → Prop
  | mk {i j : Nat} {m n : String} {ms ms' ns : List Member}
      (hmembers : List.Forall₂ Member.Rearranged ms ms') (horder : ms'.Perm ns) :
      Shape.Rearranged ⟨i, m, ms⟩ ⟨j, n, ns⟩

end

mutual

/-- The types are equal, or shapes with equal members. -/
inductive ValueType.Congruent : ValueType → ValueType → Prop
  | plain {t : ValueType} (h : t.shape? = none) : ValueType.Congruent t t
  | shape {s t : Shape} (h : s.Congruent t) : ValueType.Congruent (.shape s) (.shape t)

inductive MethodSignature.Congruent : MethodSignature → MethodSignature → Prop
  | mk {ps qs : List ValueType} {r t : ValueType}
      (hparams : List.Forall₂ ValueType.Congruent ps qs) (hreturns : r.Congruent t) :
      MethodSignature.Congruent ⟨ps, r⟩ ⟨qs, t⟩

inductive MemberKind.Congruent : MemberKind → MemberKind → Prop
  | property {a b : ValueType} {writable : Bool} (h : a.Congruent b) :
      MemberKind.Congruent (.property a writable) (.property b writable)
  | method {a b : MethodSignature} (h : a.Congruent b) :
      MemberKind.Congruent (.method a) (.method b)

/-- The shapes have members of the same names, and the two members of each name are of an equal kind
and both optional or both needed. -/
inductive Shape.Congruent : Shape → Shape → Prop
  | mk {s t : Shape}
      (hnames : ∀ n, n ∈ s.members.map Member.name ↔ n ∈ t.members.map Member.name)
      (hkinds : ∀ n a b, s.member? n = some a → t.member? n = some b → a.kind.Congruent b.kind)
      (hoptional : ∀ n a b, s.member? n = some a → t.member? n = some b →
        a.optional = b.optional) :
      Shape.Congruent s t

end

/-! ## Sorting by distinct names -/

/-- Lists with distinct names are sorted to the same list exactly if they hold the same items. -/
theorem sortByName_eq_iff_perm {α : Type} {name : α → String} {l m : List α}
    (hl : (l.map name).Nodup) : sortByName name l = sortByName name m ↔ l.Perm m := by
  have hsorted : (sortByName name l).Perm l := sortByName_perm name l
  constructor
  · intro h
    rw [h] at hsorted
    exact hsorted.symm.trans (sortByName_perm name m)
  · intro h
    have hboth : (sortByName name l).Perm (sortByName name m) :=
      hsorted.trans (h.trans (sortByName_perm name m).symm)
    refine List.Perm.eq_of_pairwise (fun a b ha hb hab hba => ?_) (pairwise_sortByName name l)
      (pairwise_sortByName name m) hboth
    -- names in both orders are equal, and items with equal names are one item
    have ha' : a ∈ l := hsorted.mem_iff.1 ha
    have hb' : b ∈ l := hsorted.mem_iff.1 (hboth.mem_iff.2 hb)
    exact List.inj_on_of_nodup_map hl ha' hb' (String.le_antisymm hab hba)

namespace Shape

variable {s t : Shape}

theorem map_name_canonical (ms : List Member) :
    (ms.map Member.canonical).map Member.name = ms.map Member.name := by
  rw [List.map_map]
  exact List.map_congr_left fun m _ => m.canonical_name

theorem canonical_eq_iff_perm (hs : (s.members.map Member.name).Nodup) :
    s.canonical = t.canonical ↔
      (s.members.map Member.canonical).Perm (t.members.map Member.canonical) := by
  rw [← map_name_canonical] at hs
  rw [← sortByName_eq_iff_perm hs, ← members_canonical, ← members_canonical]
  constructor
  · exact fun h => congrArg members h
  · cases s
    cases t
    intro h
    simp only [canonical] at h ⊢
    rw [h]

theorem mem_names_iff {n : String} :
    n ∈ s.members.map Member.name ↔ (s.member? n).isSome = true := by
  simp [member?, List.find?_isSome]

theorem mem_names_congr (h : s.same t = true) {n : String} :
    n ∈ s.members.map Member.name ↔ n ∈ t.members.map Member.name := by
  rw [mem_names_iff, mem_names_iff, ← Option.isSome_map (f := Member.canonical),
    map_canonical_member?_of_same h, Option.isSome_map]

theorem mem_map_canonical (hs : (s.members.map Member.name).Nodup)
    (hnames : ∀ n, n ∈ s.members.map Member.name → n ∈ t.members.map Member.name)
    (hmembers : ∀ n a b, s.member? n = some a → t.member? n = some b → a.canonical = b.canonical)
    {c : Member} (hc : c ∈ s.members.map Member.canonical) :
    c ∈ t.members.map Member.canonical := by
  obtain ⟨a, ha, rfl⟩ := List.mem_map.1 hc
  have hname := hnames a.name (List.mem_map_of_mem ha)
  obtain ⟨b, hb⟩ := Option.isSome_iff_exists.1 (mem_names_iff.1 hname)
  rw [hmembers a.name a b (member?_of_mem hs ha) hb]
  exact List.mem_map_of_mem (mem_of_member? hb).1

/-- Shapes with distinct names have one canonical form exactly if they have members of the same
names, and the members of each name have one. -/
theorem canonical_eq_iff_members (hs : (s.members.map Member.name).Nodup)
    (ht : (t.members.map Member.name).Nodup) :
    s.canonical = t.canonical ↔
      (∀ n, n ∈ s.members.map Member.name ↔ n ∈ t.members.map Member.name) ∧
        ∀ n a b, s.member? n = some a → t.member? n = some b → a.canonical = b.canonical := by
  constructor
  · intro h
    refine ⟨fun n => mem_names_congr (same_iff.2 h), fun n a b ha hb => ?_⟩
    have hab := map_canonical_member?_of_same (same_iff.2 h) n
    rw [ha, hb] at hab
    exact Option.some.inj hab
  · rintro ⟨hnames, hmembers⟩
    have hnodup : ∀ {r : Shape}, (r.members.map Member.name).Nodup →
        (r.members.map Member.canonical).Nodup := fun {r} hr =>
      List.Nodup.of_map Member.name (by rw [map_name_canonical]; exact hr)
    refine (canonical_eq_iff_perm hs).2
      ((List.perm_ext_iff_of_nodup (hnodup hs) (hnodup ht)).2 fun c => ⟨?_, ?_⟩)
    · exact mem_map_canonical hs (fun n => (hnames n).1) hmembers
    · exact mem_map_canonical ht (fun n => (hnames n).2) fun n b a hb ha =>
        (hmembers n a b ha hb).symm

end Shape

theorem ValueType.Built.shape_iff {s : Shape} : (ValueType.shape s).Built ↔ s.Built := by
  refine ⟨fun h => ?_, .shape⟩
  cases h with
  | plain h => cases h
  | shape h => exact h

/-! ## Rearranged shapes -/

-- by induction on the type that is rearranged, one case for each way to put types together
mutual

theorem ValueType.canonical_eq_of_rearranged :
    ∀ {a b : ValueType}, a.Built → a.Rearranged b → a.canonical = b.canonical
  | .shape s, _, hbuilt, h => by
    cases h with
    | refl => rfl
    | shape h =>
      rw [ValueType.canonical, ValueType.canonical,
        Shape.canonical_eq_of_rearranged (ValueType.Built.shape_iff.1 hbuilt) h]
  | .any, _, _, h | .null, _, _, h | .text, _, _, h | .integer, _, _, h | .float, _, _, h
  | .boolean, _, _, h | .dateTime, _, _, h | .uuid, _, _, h | .enumeration _, _, _, h
  | .list, _, _, h | .map, _, _, h | .object _, _, _, h => by
    cases h
    rfl

theorem MethodSignature.canonical_eq_of_rearranged :
    ∀ {a b : MethodSignature}, a.Built → a.Rearranged b → a.canonical = b.canonical
  | ⟨ps, r⟩, _, .mk hps hr, .mk hparams hreturns => by
    rw [MethodSignature.canonical, MethodSignature.canonical,
      canonicalTypes_eq_of_rearranged hps hparams, ValueType.canonical_eq_of_rearranged hr hreturns]

theorem canonicalTypes_eq_of_rearranged : ∀ {ps qs : List ValueType}, (∀ p ∈ ps, p.Built) →
    List.Forall₂ ValueType.Rearranged ps qs → canonicalTypes ps = canonicalTypes qs
  | [], _, _, .nil => rfl
  | p :: ps, _, hps, .cons h hrest => by
    rw [List.forall_mem_cons] at hps
    rw [canonicalTypes, canonicalTypes, ValueType.canonical_eq_of_rearranged hps.1 h,
      canonicalTypes_eq_of_rearranged hps.2 hrest]

theorem Member.canonical_eq_of_rearranged :
    ∀ {a b : Member}, a.kind.Built → a.Rearranged b → a.canonical = b.canonical
  | ⟨_, .property t _, _⟩, _, .property ht, .property h => by
    rw [Member.canonical, Member.canonical, MemberKind.canonical, MemberKind.canonical,
      ValueType.canonical_eq_of_rearranged ht h]
  | ⟨_, .method s, _⟩, _, .method hs, .method h => by
    rw [Member.canonical, Member.canonical, MemberKind.canonical, MemberKind.canonical,
      MethodSignature.canonical_eq_of_rearranged hs h]

theorem canonicalMembers_eq_of_rearranged : ∀ {ms ns : List Member}, (∀ m ∈ ms, m.kind.Built) →
    List.Forall₂ Member.Rearranged ms ns → ms.map Member.canonical = ns.map Member.canonical
  | [], _, _, .nil => rfl
  | m :: ms, _, hms, .cons h hrest => by
    rw [List.forall_mem_cons] at hms
    rw [List.map_cons, List.map_cons, Member.canonical_eq_of_rearranged hms.1 h,
      canonicalMembers_eq_of_rearranged hms.2 hrest]

/-- Rearranging a declared shape does not change its canonical form. -/
theorem Shape.canonical_eq_of_rearranged :
    ∀ {s t : Shape}, s.Built → s.Rearranged t → s.canonical = t.canonical
  | ⟨_, _, ms⟩, _, hbuilt, .mk hmembers horder => by
    rw [Shape.canonical_eq_iff_perm hbuilt.nodup,
      canonicalMembers_eq_of_rearranged (fun m hm => hbuilt.kind hm) hmembers]
    exact horder.map Member.canonical

end

/-! ## Congruent shapes -/

theorem ValueType.Congruent.of_shape {s t : Shape}
    (h : (ValueType.shape s).Congruent (.shape t)) : s.Congruent t := by
  cases h with
  | plain h => cases h
  | shape h => exact h

/-- A type other than a shape has the canonical form of no other type, and is congruent to none. -/
theorem ValueType.canonical_eq_iff_congruent_of_shape?_eq_none {a b : ValueType}
    (ha : a.shape? = none) : a.canonical = b.canonical ↔ a.Congruent b := by
  rw [ValueType.canonical_of_shape?_eq_none ha]
  constructor
  · intro h
    cases b with
    | shape t => rw [h] at ha; cases ha
    | _ => rw [h]; exact .plain rfl
  · intro h
    cases h with
    | plain _ => exact (ValueType.canonical_of_shape?_eq_none ha).symm
    | shape _ => cases ha

theorem Shape.congruent_iff {s t : Shape} :
    s.Congruent t ↔ (∀ n, n ∈ s.members.map Member.name ↔ n ∈ t.members.map Member.name) ∧
      ∀ n a b, s.member? n = some a → t.member? n = some b →
        a.kind.Congruent b.kind ∧ a.optional = b.optional := by
  constructor
  · rintro ⟨hnames, hkinds, hoptional⟩
    exact ⟨hnames, fun n a b ha hb => ⟨hkinds n a b ha hb, hoptional n a b ha hb⟩⟩
  · rintro ⟨hnames, hmembers⟩
    exact .mk hnames (fun n a b ha hb => (hmembers n a b ha hb).1)
      fun n a b ha hb => (hmembers n a b ha hb).2

theorem Member.canonical_eq_iff {a b : Member} (hname : a.name = b.name) :
    a.canonical = b.canonical ↔ a.kind.canonical = b.kind.canonical ∧ a.optional = b.optional := by
  cases a
  cases b
  simp only [Member.canonical, Member.mk.injEq]
  exact ⟨fun h => h.2, fun h => ⟨hname, h⟩⟩

-- by induction on the type on the left; the members of a shape are found by name on the right, and
-- each is one of the list on the left, where the hypothesis holds of it
mutual

theorem ValueType.canonical_eq_iff_congruent :
    ∀ {a b : ValueType}, a.Built → b.Built → (a.canonical = b.canonical ↔ a.Congruent b)
  | .shape s, b, ha, hb => by
    cases b with
    | shape t =>
      have hs : s.Built := ValueType.Built.shape_iff.1 ha
      have ht : t.Built := ValueType.Built.shape_iff.1 hb
      rw [ValueType.canonical, ValueType.canonical, ValueType.shape.injEq,
        Shape.canonical_eq_iff_congruent hs ht]
      exact ⟨.shape, ValueType.Congruent.of_shape⟩
    | _ => exact ⟨nofun, nofun⟩
  | .any, b, _, _ | .null, b, _, _ | .text, b, _, _ | .integer, b, _, _ | .float, b, _, _
  | .boolean, b, _, _ | .dateTime, b, _, _ | .uuid, b, _, _ | .enumeration _, b, _, _
  | .list, b, _, _ | .map, b, _, _ | .object _, b, _, _ =>
    ValueType.canonical_eq_iff_congruent_of_shape?_eq_none rfl

theorem MethodSignature.canonical_eq_iff_congruent :
    ∀ {a b : MethodSignature}, a.Built → b.Built → (a.canonical = b.canonical ↔ a.Congruent b)
  | ⟨ps, r⟩, ⟨qs, t⟩, .mk hps hr, .mk hqs ht => by
    rw [MethodSignature.canonical, MethodSignature.canonical, MethodSignature.mk.injEq,
      canonicalTypes_eq_iff_congruent hps hqs, ValueType.canonical_eq_iff_congruent hr ht]
    exact ⟨fun ⟨hparams, hreturns⟩ => .mk hparams hreturns,
      fun (.mk hparams hreturns) => ⟨hparams, hreturns⟩⟩

theorem canonicalTypes_eq_iff_congruent : ∀ {ps qs : List ValueType}, (∀ p ∈ ps, p.Built) →
    (∀ q ∈ qs, q.Built) →
      (canonicalTypes ps = canonicalTypes qs ↔ List.Forall₂ ValueType.Congruent ps qs)
  | [], [], _, _ => by simp [canonicalTypes]
  | [], _ :: _, _, _ => by simp [canonicalTypes]
  | _ :: _, [], _, _ => by simp [canonicalTypes]
  | p :: ps, q :: qs, hps, hqs => by
    rw [List.forall_mem_cons] at hps hqs
    rw [canonicalTypes, canonicalTypes, List.cons.injEq, List.forall₂_cons,
      ValueType.canonical_eq_iff_congruent hps.1 hqs.1,
      canonicalTypes_eq_iff_congruent hps.2 hqs.2]

theorem MemberKind.canonical_eq_iff_congruent :
    ∀ {a b : MemberKind}, a.Built → b.Built → (a.canonical = b.canonical ↔ a.Congruent b)
  | .property a v, .property b w, .property ha, .property hb => by
    rw [MemberKind.canonical, MemberKind.canonical, MemberKind.property.injEq,
      ValueType.canonical_eq_iff_congruent ha hb]
    exact ⟨fun ⟨h, hwritable⟩ => hwritable ▸ .property h, fun (.property h) => ⟨h, rfl⟩⟩
  | .method a, .method b, .method ha, .method hb => by
    rw [MemberKind.canonical, MemberKind.canonical, MemberKind.method.injEq,
      MethodSignature.canonical_eq_iff_congruent ha hb]
    exact ⟨.method, fun (.method h) => h⟩
  | .property _ _, .method _, _, _ => ⟨nofun, nofun⟩
  | .method _, .property _ _, _, _ => ⟨nofun, nofun⟩

theorem MemberKind.canonical_eq_iff_congruent_of_mem :
    ∀ (ms : List Member), ∀ a ∈ ms, ∀ {k : MemberKind}, a.kind.Built → k.Built →
      (a.kind.canonical = k.canonical ↔ a.kind.Congruent k)
  | ⟨_, kind, _⟩ :: rest, a, hmem, k, ha, hk => by
    rcases List.mem_cons.1 hmem with rfl | hmem
    · exact MemberKind.canonical_eq_iff_congruent (a := kind) ha hk
    · exact MemberKind.canonical_eq_iff_congruent_of_mem rest a hmem ha hk

/-- Declared shapes are congruent exactly if they have one canonical form. -/
theorem Shape.canonical_eq_iff_congruent :
    ∀ {s t : Shape}, s.Built → t.Built → (s.canonical = t.canonical ↔ s.Congruent t)
  | ⟨i, m, ms⟩, t, hs, ht => by
    rw [Shape.canonical_eq_iff_members hs.nodup ht.nodup, Shape.congruent_iff]
    refine and_congr Iff.rfl (forall₃_congr fun n a b => forall₂_congr fun ha hb => ?_)
    obtain ⟨hamem, hname⟩ := Shape.mem_of_member? ha
    obtain ⟨hbmem, hname'⟩ := Shape.mem_of_member? hb
    rw [Member.canonical_eq_iff (hname.trans hname'.symm),
      MemberKind.canonical_eq_iff_congruent_of_mem ms a hamem (hs.kind hamem) (ht.kind hbmem)]

end

namespace Shape

theorem same_equivalence : Equivalence fun s t : Shape => s.same t = true where
  refl := same_refl
  symm h := same_iff.2 (same_iff.1 h).symm
  trans h h' := same_iff.2 ((same_iff.1 h).trans (same_iff.1 h'))

/-- Which lists of members can be declared; a declaration keeps them in their order. -/
theorem declare_ok_iff {serial : Nat} {name : String} {members : List Member} :
    (∃ s, declare serial name members = .ok s) ↔
      (members.map Member.name).Nodup ∧ "" ∉ members.map Member.name := by
  simp only [declare_eq_ok_iff, exists_eq_left]

/-- **Shapes are the same when their members are.** A shape is declared exactly when the names of
its members are distinct and not empty, and keeps them in their order. Sameness is an equivalence;
of declared shapes it does not change under other names of shapes and other orders of members at any
depth, and it says that the two have members of the same names and under each name members of an
equal kind with equal flags. -/
theorem same_is_equality_of_members {s t : Shape} (hs : s.Built) (ht : t.Built) :
    (∀ serial name members,
      ((∃ r, declare serial name members = .ok r) ↔
        (members.map Member.name).Nodup ∧ "" ∉ members.map Member.name) ∧
      ∀ r, declare serial name members = .ok r → r.name = name ∧ r.members = members) ∧
    Equivalence (fun a b : Shape => a.same b = true) ∧
    (∀ s' t', s.Rearranged s' → t.Rearranged t' → s'.same t' = s.same t) ∧
    (s.same t = true ↔ s.Congruent t) := by
  refine ⟨fun serial name members => ⟨declare_ok_iff, fun r hr => ?_⟩, same_equivalence,
    fun s' t' hs' ht' => ?_, ?_⟩
  · obtain ⟨rfl, _⟩ := declare_eq_ok_iff.1 hr
    exact ⟨rfl, rfl⟩
  · rw [← same_canonical s', ← canonical_eq_of_rearranged hs hs',
      ← canonical_eq_of_rearranged ht ht', same_canonical]
  · rw [same_iff]
    exact canonical_eq_iff_congruent hs ht

/-- A person with a home to look up and to move to, and the same with other names for both shapes,
their members in other orders. -/
theorem same_is_equality_of_members_nested :
    let street : Member := ⟨"Street", .property .text false, false⟩
    let number : Member := ⟨"Number", .property .integer true, true⟩
    let name : Member := ⟨"Name", .property .text false, false⟩
    let person := fun (home : Shape) => [name, ⟨"Home", .property (.shape home) false, false⟩,
      ⟨"Move", .method ⟨[.shape home], .shape home⟩, false⟩]
    let s : Shape := ⟨1, "Person", person ⟨2, "Address", [street, number]⟩⟩
    let t : Shape := ⟨3, "Human", (person ⟨4, "Place", [number, street]⟩).reverse⟩
    s.Built ∧ t.Built ∧ s.same t = true ∧ s.Congruent t ∧
      ∀ s' t', s.Rearranged s' → t.Rearranged t' → s'.same t' = true := by
  intro street number name person s t
  have hperson : ∀ home : Shape, home.Built → ∀ m ∈ person home, m.kind.Built := by
    intro home h
    simp only [person, List.forall_mem_cons]
    exact ⟨.property (.plain rfl), .property (.shape h),
      .method (.mk (by simpa using .shape h) (.shape h)), by simp⟩
  have hplain : street.kind.Built ∧ number.kind.Built :=
    ⟨.property (.plain rfl), .property (.plain rfl)⟩
  have haddress : (⟨2, "Address", [street, number]⟩ : Shape).Built :=
    .declare (by simpa using hplain) (rfl : declare 2 "Address" [street, number] = .ok _)
  have hplace : (⟨4, "Place", [number, street]⟩ : Shape).Built :=
    .declare (by simpa using hplain.symm) (rfl : declare 4 "Place" [number, street] = .ok _)
  have hs : s.Built := .declare (hperson _ haddress) rfl
  have ht : t.Built :=
    .declare (fun m hm => hperson _ hplace m (List.mem_reverse.1 hm)) rfl
  have hsame : s.same t = true := by decide +kernel
  obtain ⟨_, _, hinvariant, hcongruent⟩ := same_is_equality_of_members hs ht
  exact ⟨hs, ht, hsame, hcongruent.1 hsame,
    fun s' t' hs' ht' => (hinvariant s' t' hs' ht').trans hsame⟩

end Shape

end DuckTyping
