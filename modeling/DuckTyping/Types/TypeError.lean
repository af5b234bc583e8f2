set_option autoImplicit false

/-!
# Faults of declarations

What can be wrong with the declaration of an enumeration or a shape, and the texts that report it.
-/

namespace DuckTyping

/-- Why an enumeration or a shape cannot be declared. -/
inductive TypeError where
  /-- two members of one shape have the same name -/
  | duplicateMember (shape member : String)
  /-- a member has the empty name -/
  | emptyMemberName (shape : String)
  /-- an enumeration without variants -/
  | emptyEnum (name : String)
  /-- two variants of one enumeration have the same name -/
  | duplicateVariant (name variant : String)
  deriving DecidableEq, Repr, Inhabited

namespace TypeError

/-- The text that reports the fault. -/
def message : TypeError → String
  | .duplicateMember shape member => "Duplicate member '" ++ member ++ "' in shape " ++ shape
  | .emptyMemberName shape => "Empty member name in shape " ++ shape
  | .emptyEnum name => "Enum " ++ name ++ " has no variants"
  | .duplicateVariant name variant => "Duplicate variant '" ++ variant ++ "' in enum " ++ name

end TypeError

/-- The first name that already stands in `seen` or further ahead in the list. -/
def firstRepeatedAfter (seen : List String) : List String → Option String
  | [] => none
  | name :: rest =>
    if name ∈ seen then some name else firstRepeatedAfter (name :: seen) rest

/-- The first name that repeats an earlier one. -/
def firstRepeated (names : List String) : Option String := firstRepeatedAfter [] names

theorem firstRepeatedAfter_eq_none_iff {seen names : List String} :
    firstRepeatedAfter seen names = none ↔ names.Nodup ∧ ∀ n ∈ names, n ∉ seen := by
  induction names generalizing seen with
  | nil => simp [firstRepeatedAfter]
  | cons name rest ih =>
    by_cases h : name ∈ seen
    · simp [firstRepeatedAfter, h]
    · simp only [firstRepeatedAfter, h, if_false, ih, List.nodup_cons, List.mem_cons]
      grind

/-- No name repeats an earlier one exactly when all names are distinct. -/
theorem firstRepeated_eq_none_iff {names : List String} :
    firstRepeated names = none ↔ names.Nodup := by
  simp [firstRepeated, firstRepeatedAfter_eq_none_iff]

end DuckTyping
