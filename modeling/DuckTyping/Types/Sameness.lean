import DuckTyping.Types.Canonical

set_option autoImplicit false

/-!
# Deciding whether types are the same

Two types are the same when their canonical forms are equal. The forms are not built: the types are
compared from the outside inwards, members in the order of their names, up to the first difference.
A shape may occur in many places of a type, and a shape at one place in memory is compared with
itself at no cost, so the comparison of types that share their parts takes no longer than the parts.
Each function decides the equality that its type states.
-/

namespace DuckTyping

/-- Decide whether two things have the same image, at once if they are one and the same. -/
@[inline] def decideShared {α β : Type} (f : α → β) (a b : α) (k : Unit → Decidable (f a = f b)) :
    Decidable (f a = f b) :=
  decidable_of_iff
    (withPtrEq a b (fun _ => @decide _ (k ()))
      (fun h => @decide_eq_true _ (k ()) (congrArg f h)) = true)
    (by simp [withPtrEq])

/-- A member together with the decision whether another one is the same. -/
structure MemberTest where
  member : Member
  decideSame : (other : Member) → Decidable (member.canonical = other.canonical)

/-- Decide whether two lists of members are the same, one by one. -/
def decideSameMembers : (tests : List MemberTest) → (others : List Member) →
    Decidable (tests.map (·.member.canonical) = others.map (·.canonical))
  | [], [] => isTrue rfl
  | [], _ :: _ => isFalse (by simp)
  | _ :: _, [] => isFalse (by simp)
  | t :: tests, o :: others =>
    match t.decideSame o with
    | isFalse h => isFalse (by simp [h])
    | isTrue h =>
      match decideSameMembers tests others with
      | isFalse hr => isFalse (by simp [hr])
      | isTrue hr => isTrue (by simp [h, hr])

theorem Shape.canonical_eq_iff {i j : Nat} {m n : String} {ms ns : List Member} :
    (⟨i, m, ms⟩ : Shape).canonical = (⟨j, n, ns⟩ : Shape).canonical ↔
      (sortByName Member.name ms).map Member.canonical =
        (sortByName Member.name ns).map Member.canonical := by
  simp only [Shape.canonical, Shape.mk.injEq, true_and, canonicalMembers_eq_map]
  rw [map_sortByName Member.canonical_name, map_sortByName Member.canonical_name]

theorem map_canonical_sortByName {tests : List MemberTest} {ms : List Member}
    (h : tests.map (·.member) = ms) :
    (sortByName (·.member.name) tests).map (·.member.canonical) =
      (sortByName Member.name ms).map Member.canonical := by
  subst h
  rw [← map_sortByName (f := MemberTest.member) (fun _ => rfl), List.map_map]
  rfl

mutual

def ValueType.decideSame : (a b : ValueType) → Decidable (a.canonical = b.canonical)
  | .shape s, .shape t =>
    @decidable_of_iff _ (s.canonical = t.canonical) (by simp [ValueType.canonical])
      (decideShared Shape.canonical s t fun _ => s.decideSame t)
  | .shape _, .any | .shape _, .null | .shape _, .text | .shape _, .integer | .shape _, .float
  | .shape _, .boolean | .shape _, .dateTime | .shape _, .uuid | .shape _, .enumeration _
  | .shape _, .list | .shape _, .map | .shape _, .object _ =>
    isFalse (by simp [ValueType.canonical])
  | a@.any, b | a@.null, b | a@.text, b | a@.integer, b | a@.float, b | a@.boolean, b
  | a@.dateTime, b | a@.uuid, b | a@(.enumeration _), b | a@.list, b | a@.map, b
  | a@(.object _), b =>
    decidable_of_iff (a = b) (by subst_vars; cases b <;> simp [ValueType.canonical])

def MethodSignature.decideSame : (a b : MethodSignature) → Decidable (a.canonical = b.canonical)
  | ⟨ps, r⟩, ⟨qs, t⟩ =>
    if hl : ps.length = qs.length then
      match decideSameTypes ps qs with
      | isFalse h => isFalse (by simp [MethodSignature.canonical, h])
      | isTrue h =>
        match r.decideSame t with
        | isFalse hr => isFalse (by simp [MethodSignature.canonical, hr])
        | isTrue hr => isTrue (by simp [MethodSignature.canonical, h, hr])
    else isFalse fun e => hl (by
      have h := congrArg (List.length ∘ MethodSignature.params) e
      simpa [MethodSignature.canonical, canonicalTypes_eq_map] using h)

def MemberKind.decideSame : (a b : MemberKind) → Decidable (a.canonical = b.canonical)
  | .property a v, .property b w =>
    if hv : v = w then
      match a.decideSame b with
      | isFalse h => isFalse (by simp [MemberKind.canonical, h])
      | isTrue h => isTrue (by simp [MemberKind.canonical, h, hv])
    else isFalse (by simp [MemberKind.canonical, hv])
  | .method a, .method b =>
    match a.decideSame b with
    | isFalse h => isFalse (by simp [MemberKind.canonical, h])
    | isTrue h => isTrue (by simp [MemberKind.canonical, h])
  | .property _ _, .method _ => isFalse (by simp [MemberKind.canonical])
  | .method _, .property _ _ => isFalse (by simp [MemberKind.canonical])

def Member.decideSame : (a b : Member) → Decidable (a.canonical = b.canonical)
  | ⟨m, a, o⟩, ⟨n, b, p⟩ =>
    if h : m = n ∧ o = p then
      match a.decideSame b with
      | isFalse hk => isFalse (by simp [Member.canonical, hk])
      | isTrue hk => isTrue (by simp [Member.canonical, h, hk])
    else isFalse (by simp only [Member.canonical, Member.mk.injEq]; grind)

def Shape.decideSame : (a b : Shape) → Decidable (a.canonical = b.canonical)
  | ⟨_, _, ms⟩, ⟨_, _, ns⟩ =>
    if hl : ms.length = ns.length then
      let tests := memberTests ms
      @decidable_of_iff _ _
        (by rw [map_canonical_sortByName tests.2, Shape.canonical_eq_iff])
        (decideSameMembers (sortByName (·.member.name) tests.1) (sortByName Member.name ns))
    else isFalse fun e => hl (by
      have h := congrArg List.length (Shape.canonical_eq_iff.1 e)
      simpa [(sortByName_perm Member.name ms).length_eq,
        (sortByName_perm Member.name ns).length_eq] using h)

def decideSameTypes : (ps qs : List ValueType) → Decidable (canonicalTypes ps = canonicalTypes qs)
  | [], [] => isTrue rfl
  | [], _ :: _ => isFalse (by simp [canonicalTypes])
  | _ :: _, [] => isFalse (by simp [canonicalTypes])
  | p :: ps, q :: qs =>
    match p.decideSame q with
    | isFalse h => isFalse (by simp [canonicalTypes, h])
    | isTrue h =>
      match decideSameTypes ps qs with
      | isFalse hr => isFalse (by simp [canonicalTypes, hr])
      | isTrue hr => isTrue (by simp [canonicalTypes, h, hr])

/-- Each of these members with its test. -/
def memberTests : (ms : List Member) → { tests : List MemberTest // tests.map (·.member) = ms }
  | [] => ⟨[], rfl⟩
  | m :: rest =>
    let tests := memberTests rest
    ⟨⟨m, m.decideSame⟩ :: tests.1, by simp [tests.2]⟩

end

/-- Equal up to the names of shapes and the order of their members. -/
def ValueType.same (a b : ValueType) : Bool := @decide _ (a.decideSame b)

/-- Equal up to the names of shapes and the order of their members. -/
def MethodSignature.same (a b : MethodSignature) : Bool := @decide _ (a.decideSame b)

/-- Equal up to the names of shapes and the order of their members. -/
def Member.same (a b : Member) : Bool := @decide _ (a.decideSame b)

/-- The same set of members. -/
def Shape.same (a b : Shape) : Bool :=
  @decide _ (decideShared Shape.canonical a b fun _ => a.decideSame b)

theorem ValueType.same_iff {a b : ValueType} : a.same b = true ↔ a.canonical = b.canonical := by
  simp [ValueType.same]

theorem MethodSignature.same_iff {a b : MethodSignature} :
    a.same b = true ↔ a.canonical = b.canonical := by
  simp [MethodSignature.same]

theorem Member.same_iff {a b : Member} : a.same b = true ↔ a.canonical = b.canonical := by
  simp [Member.same]

theorem Shape.same_iff {a b : Shape} : a.same b = true ↔ a.canonical = b.canonical := by
  simp [Shape.same]

@[simp] theorem ValueType.same_refl (a : ValueType) : a.same a = true := ValueType.same_iff.2 rfl

@[simp] theorem Shape.same_refl (a : Shape) : a.same a = true := Shape.same_iff.2 rfl

theorem ValueType.same_shape (a b : Shape) :
    (ValueType.shape a).same (.shape b) = a.same b := by
  rw [Bool.eq_iff_iff, ValueType.same_iff, Shape.same_iff]
  simp [ValueType.canonical]

end DuckTyping
