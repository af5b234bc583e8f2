import DuckTyping.Types.EnumType

set_option autoImplicit false

/-!
# Declared types and shapes

The type of a value or of a member is a scalar, a container, an enumeration, an object type known by
name, or again a shape: a list of members, each a property with a type or a method with a signature.
A shape lists its members in the order of declaration; its name serves messages only.
-/

namespace DuckTyping

/-- The kind of a type: the type without its parameters. Converters are looked up by kind. -/
inductive TypeKind where
  | any | null | text | integer | float | boolean | dateTime | uuid | enumeration | list | map
  | object | shape
  deriving DecidableEq, Repr, Inhabited

namespace TypeKind

/-- Every kind, in the order of declaration. -/
def all : List TypeKind :=
  [.any, .null, .text, .integer, .float, .boolean, .dateTime, .uuid, .enumeration, .list, .map,
    .object, .shape]

/-- The name of a kind in messages. -/
def render : TypeKind → String
  | .any => "any"
  | .null => "null"
  | .text => "text"
  | .integer => "integer"
  | .float => "float"
  | .boolean => "boolean"
  | .dateTime => "datetime"
  | .uuid => "uuid"
  | .enumeration => "enum"
  | .list => "list"
  | .map => "map"
  | .object => "object"
  | .shape => "shape"

/-- The name of a kind in the diagnostic form of a registry. -/
def summary : TypeKind → String
  | .any => "Any"
  | .null => "Null"
  | .text => "Text"
  | .integer => "Integer"
  | .float => "Float"
  | .boolean => "Boolean"
  | .dateTime => "DateTime"
  | .uuid => "Uuid"
  | .enumeration => "Enum"
  | .list => "List"
  | .map => "Map"
  | .object => "Object"
  | .shape => "Shape"

end TypeKind

mutual

/-- The declared type of a member or of a value. -/
inductive ValueType where
  /-- accepts every value -/
  | any
  | null
  | text
  | integer
  | float
  | boolean
  | dateTime
  | uuid
  | enumeration (type : EnumType)
  | list
  /-- any mapping with text keys -/
  | map
  /-- objects of the named type -/
  | object (name : String)
  /-- whatever satisfies the shape -/
  | shape (shape : Shape)

/-- The types a method takes and the type it returns. -/
structure MethodSignature where
  params : List ValueType
  returns : ValueType

/-- A member is a property, which may be writable, or a method. -/
inductive MemberKind where
  | property (type : ValueType) (writable : Bool)
  | method (signature : MethodSignature)

/-- A member of a shape. A source may lack an optional one. -/
structure Member where
  name : String
  kind : MemberKind
  optional : Bool

/-- The members a consumer asks for, in the order of declaration.

`serial` tells one declaration from another with the same content; nothing but the table of a
`ConformanceContext` looks at it. -/
structure Shape where
  serial : Nat
  name : String
  members : List Member

end

instance : Inhabited ValueType := ⟨.any⟩
instance : Inhabited MethodSignature := ⟨⟨[], .any⟩⟩
instance : Inhabited MemberKind := ⟨.property .any false⟩
instance : Inhabited Member := ⟨⟨"", default, false⟩⟩
instance : Inhabited Shape := ⟨⟨0, "", []⟩⟩

namespace ValueType

/-- The type without its parameters. -/
def kind : ValueType → TypeKind
  | .any => .any
  | .null => .null
  | .text => .text
  | .integer => .integer
  | .float => .float
  | .boolean => .boolean
  | .dateTime => .dateTime
  | .uuid => .uuid
  | .enumeration _ => .enumeration
  | .list => .list
  | .map => .map
  | .object _ => .object
  | .shape _ => .shape

/-- Types whose values converters can work with. -/
def isScalar : ValueType → Bool
  | .text | .integer | .float | .boolean | .dateTime | .uuid | .enumeration _ => true
  | _ => false

/-- The enumeration of an enumeration type. -/
def enumeration? : ValueType → Option EnumType
  | .enumeration e => some e
  | _ => none

/-- The shape of a shape type. -/
def shape? : ValueType → Option Shape
  | .shape s => some s
  | _ => none

/-- The name of a type in messages. -/
def render : ValueType → String
  | .enumeration e => "enum " ++ e.name
  | .object name => "object " ++ name
  | .shape s => "shape " ++ s.name
  | t => t.kind.render

end ValueType

namespace MethodSignature

/-- The parameter types between parentheses, then the type that is returned. -/
def render (s : MethodSignature) : String :=
  "(" ++ ", ".intercalate (s.params.map ValueType.render) ++ ") => " ++ s.returns.render

end MethodSignature

namespace Member

/-- The type of a property, or what a method returns. -/
def valueType (m : Member) : ValueType :=
  match m.kind with
  | .property type _ => type
  | .method signature => signature.returns

def isProperty (m : Member) : Bool :=
  match m.kind with
  | .property _ _ => true
  | .method _ => false

/-- A property that consumers may write. -/
def isWritable (m : Member) : Bool :=
  match m.kind with
  | .property _ writable => writable
  | .method _ => false

/-- The signature of a method. -/
def method? (m : Member) : Option MethodSignature :=
  match m.kind with
  | .property _ _ => none
  | .method signature => some signature

/-- A member as it would be declared. -/
def render (m : Member) : String :=
  let name := if m.optional then m.name ++ "?" else m.name
  match m.kind with
  | .property type writable => (if writable then "" else "readonly ") ++ name ++ ": " ++ type.render
  | .method signature => name ++ signature.render

end Member

namespace Shape

/-- The member of exactly this name. -/
def member? (s : Shape) (name : String) : Option Member :=
  s.members.find? (·.name == name)

def size (s : Shape) : Nat := s.members.length

def isEmpty (s : Shape) : Bool := s.members.isEmpty

/-- The name of a shape and its members between braces. -/
def render (s : Shape) : String :=
  s.name ++ " \x7b " ++ ", ".intercalate (s.members.map Member.render) ++ " \x7d"

/-- The first member that has no name or repeats the name of an earlier one. -/
def faultAfter (shape : String) (seen : List String) : List Member → Option TypeError
  | [] => none
  | m :: rest =>
    if m.name = "" then some (.emptyMemberName shape)
    else if m.name ∈ seen then some (.duplicateMember shape m.name)
    else faultAfter shape (m.name :: seen) rest

/-- Declare a shape: every member has a name, and no two have the same. -/
def declare (serial : Nat) (name : String) (members : List Member) : Except TypeError Shape :=
  match faultAfter name [] members with
  | some fault => .error fault
  | none => .ok ⟨serial, name, members⟩

theorem faultAfter_eq_none_iff {shape : String} {seen : List String} {members : List Member} :
    faultAfter shape seen members = none ↔
      (members.map Member.name).Nodup ∧
        ∀ n ∈ members.map Member.name, n ≠ "" ∧ n ∉ seen := by
  induction members generalizing seen with
  | nil => simp [faultAfter]
  | cons m rest ih =>
    by_cases he : m.name = ""
    · simp [faultAfter, he]
    by_cases hs : m.name ∈ seen
    · simp [faultAfter, he, hs]
    · simp only [faultAfter, he, hs, if_false, ih, List.map_cons, List.nodup_cons, List.mem_cons]
      grind

/-- A shape is declared exactly when its names are distinct and not empty, and keeps its members. -/
theorem declare_eq_ok_iff {serial : Nat} {name : String} {members : List Member} {s : Shape} :
    declare serial name members = .ok s ↔
      s = ⟨serial, name, members⟩ ∧ (members.map Member.name).Nodup ∧
        "" ∉ members.map Member.name := by
  have hiff : faultAfter name [] members = none ↔ _ := faultAfter_eq_none_iff
  unfold declare
  split
  · rename_i fault hf
    simp only [reduceCtorEq, false_iff, not_and]
    intro _ hnd hne
    have := hiff.2 ⟨hnd, fun n hn => ⟨fun h => hne (h ▸ hn), by simp⟩⟩
    simp [hf] at this
  · rename_i hf
    obtain ⟨hnd, hne⟩ := hiff.1 hf
    simp only [Except.ok.injEq]
    constructor
    · rintro rfl
      exact ⟨rfl, hnd, fun h => (hne _ h).1 rfl⟩
    · rintro ⟨rfl, _⟩
      rfl

end Shape

end DuckTyping
