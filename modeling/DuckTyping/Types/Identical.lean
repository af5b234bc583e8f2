import DuckTyping.Types.ValueType

set_option autoImplicit false

/-!
# Literal equality of types

Types, signatures, members and shapes are finite trees, so their equality is decidable. `identical`
compares two trees node by node, names of shapes and the order of members included.
-/

namespace DuckTyping

mutual

def ValueType.identical : ValueType → ValueType → Bool
  | .any, .any | .null, .null | .text, .text | .integer, .integer | .float, .float
  | .boolean, .boolean | .dateTime, .dateTime | .uuid, .uuid | .list, .list | .map, .map => true
  | .enumeration a, .enumeration b => a = b
  | .object a, .object b => a = b
  | .shape a, .shape b => a.identical b
  | _, _ => false

def MethodSignature.identical : MethodSignature → MethodSignature → Bool
  | ⟨ps, r⟩, ⟨qs, t⟩ => identicalTypes ps qs && r.identical t

def MemberKind.identical : MemberKind → MemberKind → Bool
  | .property a v, .property b w => a.identical b && v == w
  | .method a, .method b => a.identical b
  | _, _ => false

def Member.identical : Member → Member → Bool
  | ⟨m, a, o⟩, ⟨n, b, p⟩ => m == n && a.identical b && o == p

def Shape.identical : Shape → Shape → Bool
  | ⟨i, m, as⟩, ⟨j, n, bs⟩ => i == j && m == n && identicalMembers as bs

def identicalTypes : List ValueType → List ValueType → Bool
  | [], [] => true
  | a :: as, b :: bs => a.identical b && identicalTypes as bs
  | _, _ => false

def identicalMembers : List Member → List Member → Bool
  | [], [] => true
  | a :: as, b :: bs => a.identical b && identicalMembers as bs
  | _, _ => false

end

mutual

theorem ValueType.identical_iff : ∀ {a b : ValueType}, a.identical b = true ↔ a = b
  | a, b => by
    cases a <;> cases b <;> simp [ValueType.identical]
    exact Shape.identical_iff

theorem MethodSignature.identical_iff :
    ∀ {a b : MethodSignature}, a.identical b = true ↔ a = b
  | ⟨ps, r⟩, ⟨qs, t⟩ => by
    simp [MethodSignature.identical, identicalTypes_iff (l := ps), ValueType.identical_iff (a := r)]

theorem MemberKind.identical_iff : ∀ {a b : MemberKind}, a.identical b = true ↔ a = b
  | .property a v, .property b w => by
    simp [MemberKind.identical, ValueType.identical_iff (a := a)]
  | .method a, .method b => by
    simp [MemberKind.identical, MethodSignature.identical_iff (a := a)]
  | .property _ _, .method _ => by simp [MemberKind.identical]
  | .method _, .property _ _ => by simp [MemberKind.identical]

theorem Member.identical_iff : ∀ {a b : Member}, a.identical b = true ↔ a = b
  | ⟨m, a, o⟩, ⟨n, b, p⟩ => by
    simp [Member.identical, MemberKind.identical_iff (a := a), and_assoc]

theorem Shape.identical_iff : ∀ {a b : Shape}, a.identical b = true ↔ a = b
  | ⟨i, m, as⟩, ⟨j, n, bs⟩ => by
    simp [Shape.identical, identicalMembers_iff (l := as), and_assoc]

theorem identicalTypes_iff : ∀ {l m : List ValueType}, identicalTypes l m = true ↔ l = m
  | [], [] => by simp [identicalTypes]
  | [], _ :: _ => by simp [identicalTypes]
  | _ :: _, [] => by simp [identicalTypes]
  | a :: as, b :: bs => by
    simp [identicalTypes, ValueType.identical_iff (a := a), identicalTypes_iff (l := as)]

theorem identicalMembers_iff : ∀ {l m : List Member}, identicalMembers l m = true ↔ l = m
  | [], [] => by simp [identicalMembers]
  | [], _ :: _ => by simp [identicalMembers]
  | _ :: _, [] => by simp [identicalMembers]
  | a :: as, b :: bs => by
    simp [identicalMembers, Member.identical_iff (a := a), identicalMembers_iff (l := as)]

end

instance : DecidableEq ValueType := fun _ _ => decidable_of_iff _ ValueType.identical_iff
instance : DecidableEq MethodSignature := fun _ _ =>
  decidable_of_iff _ MethodSignature.identical_iff
instance : DecidableEq MemberKind := fun _ _ => decidable_of_iff _ MemberKind.identical_iff
instance : DecidableEq Member := fun _ _ => decidable_of_iff _ Member.identical_iff
instance : DecidableEq Shape := fun _ _ => decidable_of_iff _ Shape.identical_iff

end DuckTyping
