import DuckTyping.Text.CaseMapping

set_option autoImplicit false

/-!
# Comparison of keys

A mapping compares its keys literally or ignoring case. Either way two keys match exactly when they
fold to the same text, so a folded key can serve as an index.
-/

namespace DuckTyping

/-- How keys are compared. -/
inductive KeyComparison where
  /-- keys match when they are literally equal -/
  | ordinal
  /-- keys match when they are equal in lower case -/
  | ignoreCase
  deriving DecidableEq, Repr, Inhabited

namespace KeyComparison

/-- The comparison that distinguishes case, or the one that does not. -/
def ofCaseSensitive (sensitive : Bool) : KeyComparison :=
  if sensitive then .ordinal else .ignoreCase

/-- The comparison distinguishes case. -/
def isCaseSensitive (c : KeyComparison) : Bool := c = .ordinal

/-- The text under which a key is indexed. -/
def fold (c : KeyComparison) (key : String) : String :=
  match c with
  | .ordinal => key
  | .ignoreCase => Text.lower key

/-- Two keys are taken for the same. -/
def keysMatch (c : KeyComparison) (a b : String) : Bool :=
  match c with
  | .ordinal => a == b
  | .ignoreCase => a == b || Text.lower a == Text.lower b

/-- The name of a comparison in diagnostic texts. -/
def summary : KeyComparison → String
  | .ordinal => "Ordinal"
  | .ignoreCase => "IgnoreCase"

@[simp] theorem fold_ordinal (key : String) : fold .ordinal key = key := rfl

/-- Keys match exactly when they fold to the same text. -/
theorem keysMatch_iff {c : KeyComparison} {a b : String} :
    c.keysMatch a b = true ↔ c.fold a = c.fold b := by
  cases c with
  | ordinal => simp [keysMatch, fold]
  | ignoreCase =>
    simp only [keysMatch, fold, Bool.or_eq_true, beq_iff_eq]
    exact ⟨fun h => h.elim (congrArg _) id, Or.inr⟩

@[simp] theorem keysMatch_self (c : KeyComparison) (a : String) : c.keysMatch a a = true :=
  keysMatch_iff.2 rfl

theorem keysMatch_comm (c : KeyComparison) (a b : String) : c.keysMatch a b = c.keysMatch b a := by
  rw [Bool.eq_iff_iff, keysMatch_iff, keysMatch_iff, eq_comm]

/-- Of two keys that match, a third matches both or neither. -/
theorem keysMatch_congr_right {c : KeyComparison} {k l : String} (h : c.keysMatch k l = true)
    (a : String) : c.keysMatch a k = c.keysMatch a l := by
  rw [Bool.eq_iff_iff, keysMatch_iff, keysMatch_iff, keysMatch_iff.1 h]

/-- Keys that match under any comparison are equal ignoring case. -/
theorem keysMatch_ignoreCase {c : KeyComparison} {a b : String} (h : c.keysMatch a b = true) :
    ignoreCase.keysMatch a b = true := by
  cases c with
  | ordinal =>
    have heq : a = b := keysMatch_iff.1 h
    rw [heq, keysMatch_self]
  | ignoreCase => exact h

@[simp] theorem isCaseSensitive_ofCaseSensitive (b : Bool) :
    (ofCaseSensitive b).isCaseSensitive = b := by
  cases b <;> rfl

@[simp] theorem ofCaseSensitive_isCaseSensitive (c : KeyComparison) :
    ofCaseSensitive c.isCaseSensitive = c := by
  cases c <;> rfl

end KeyComparison

end DuckTyping
