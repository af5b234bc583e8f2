import DuckTyping.Types.Identical

set_option autoImplicit false

/-!
# Shapes as sets of members

Two shapes are the same when they declare the same set of members, whatever they are called and in
whatever order they list them, and so are types and signatures in which only such differences occur,
at any depth. Each type has a canonical form, in which shapes have lost their names and list their
members in the order of the members' names; two types are the same when their canonical forms are
equal.
-/

namespace DuckTyping

/-- Put an item in front of the first one whose name is not smaller. -/
def insertByName {α : Type} (name : α → String) (a : α) : List α → List α
  | [] => [a]
  | b :: rest => if name a ≤ name b then a :: b :: rest else b :: insertByName name a rest

/-- Items in the order of their names; of items with one name, the earlier stays in front. -/
def sortByName {α : Type} (name : α → String) (items : List α) : List α :=
  items.foldr (insertByName name) []

theorem insertByName_perm {α : Type} (name : α → String) (a : α) (l : List α) :
    (insertByName name a l).Perm (a :: l) := by
  induction l with
  | nil => exact List.Perm.refl _
  | cons b rest ih =>
    simp only [insertByName]
    split
    · exact List.Perm.refl _
    · exact (ih.cons b).trans (List.Perm.swap a b rest)

/-- Sorting keeps the items. -/
theorem sortByName_perm {α : Type} (name : α → String) (l : List α) :
    (sortByName name l).Perm l := by
  induction l with
  | nil => exact List.Perm.refl _
  | cons a rest ih => exact (insertByName_perm name a _).trans (ih.cons a)

theorem map_insertByName {α β : Type} {name : α → String} {label : β → String} {f : α → β}
    (h : ∀ a, label (f a) = name a) (a : α) (l : List α) :
    (insertByName name a l).map f = insertByName label (f a) (l.map f) := by
  induction l with
  | nil => rfl
  | cons b rest ih =>
    simp only [insertByName, List.map_cons, h]
    split
    · rfl
    · rw [List.map_cons, ih]

/-- A map that keeps the names may be applied before sorting or after it. -/
theorem map_sortByName {α β : Type} {name : α → String} {label : β → String} {f : α → β}
    (h : ∀ a, label (f a) = name a) (l : List α) :
    (sortByName name l).map f = sortByName label (l.map f) := by
  induction l with
  | nil => rfl
  | cons a rest ih =>
    simp only [sortByName, List.foldr_cons, List.map_cons] at ih ⊢
    rw [map_insertByName h, ih]

mutual

/-- The form in which shapes have no name and list their members by name. -/
def ValueType.canonical : ValueType → ValueType
  | .shape s => .shape s.canonical
  | t => t

def MethodSignature.canonical : MethodSignature → MethodSignature
  | ⟨params, returns⟩ => ⟨canonicalTypes params, returns.canonical⟩

def MemberKind.canonical : MemberKind → MemberKind
  | .property type writable => .property type.canonical writable
  | .method signature => .method signature.canonical

def Member.canonical : Member → Member
  | ⟨name, kind, optional⟩ => ⟨name, kind.canonical, optional⟩

def Shape.canonical : Shape → Shape
  | ⟨_, _, members⟩ => ⟨0, "", sortByName Member.name (canonicalMembers members)⟩

def canonicalTypes : List ValueType → List ValueType
  | [] => []
  | t :: rest => t.canonical :: canonicalTypes rest

def canonicalMembers : List Member → List Member
  | [] => []
  | m :: rest => m.canonical :: canonicalMembers rest

end

theorem canonicalMembers_eq_map (ms : List Member) :
    canonicalMembers ms = ms.map Member.canonical := by
  induction ms with
  | nil => rfl
  | cons m rest ih => simp [canonicalMembers, ih]

theorem canonicalTypes_eq_map (ts : List ValueType) :
    canonicalTypes ts = ts.map ValueType.canonical := by
  induction ts with
  | nil => rfl
  | cons t rest ih => simp [canonicalTypes, ih]

@[simp] theorem Member.canonical_name (m : Member) : m.canonical.name = m.name := by
  cases m; rfl

@[simp] theorem Member.canonical_kind (m : Member) : m.canonical.kind = m.kind.canonical := by
  cases m; rfl

@[simp] theorem Member.canonical_optional (m : Member) : m.canonical.optional = m.optional := by
  cases m; rfl

end DuckTyping
