import DuckTyping.Store.Reading
import Mathlib.Logic.Relation

set_option autoImplicit false

/-!
# The graph of mappings

Mappings refer to one another through the values of their entries, in lists of any depth too, and
may share parts and run in cycles. Replacing the references in a value replaces them one by one.
-/

namespace DuckTyping

/-! ## References in values -/

namespace Value

mutual

/-- The mappings that a value refers to, in order; those in lists included. -/
def mapRefs : Value → List MapRef
  | .map m => [m]
  | .list items => mapRefsIn items
  | _ => []

def mapRefsIn : List Value → List MapRef
  | [] => []
  | v :: rest => v.mapRefs ++ mapRefsIn rest

end

mutual

/-- The same value with every reference to a mapping replaced. -/
def relabel (T : MapRef → MapRef) : Value → Value
  | .map m => .map (T m)
  | .list items => .list (relabelItems T items)
  | v => v

def relabelItems (T : MapRef → MapRef) : List Value → List Value
  | [] => []
  | v :: rest => v.relabel T :: relabelItems T rest

end

mutual

/-- Replacing the references of a value replaces them in the list of its references. -/
theorem mapRefs_relabel (T : MapRef → MapRef) : ∀ v : Value, (v.relabel T).mapRefs = v.mapRefs.map T
  | .map _ => rfl
  | .list items => mapRefsIn_relabelItems T items
  | .null | .bool _ | .int _ | .float _ | .text _ | .dateTime _ | .uuid _ | .enumeration _
  | .object _ => rfl

theorem mapRefsIn_relabelItems (T : MapRef → MapRef) :
    ∀ vs : List Value, mapRefsIn (relabelItems T vs) = (mapRefsIn vs).map T
  | [] => rfl
  | v :: rest => by
    rw [relabelItems, mapRefsIn, mapRefs_relabel T v, mapRefsIn_relabelItems T rest, mapRefsIn,
      List.map_append]

end

mutual

theorem relabel_congr {T U : MapRef → MapRef} :
    ∀ {v : Value}, (∀ y ∈ v.mapRefs, T y = U y) → v.relabel T = v.relabel U
  | .map m, h => congrArg Value.map (h m (List.mem_singleton.2 rfl))
  | .list _, h => congrArg Value.list (relabelItems_congr h)
  | .null, _ | .bool _, _ | .int _, _ | .float _, _ | .text _, _ | .dateTime _, _ | .uuid _, _
  | .enumeration _, _ | .object _, _ => rfl

theorem relabelItems_congr {T U : MapRef → MapRef} :
    ∀ {vs : List Value}, (∀ y ∈ mapRefsIn vs, T y = U y) → relabelItems T vs = relabelItems U vs
  | [], _ => rfl
  | v :: rest, h => by
    rw [relabelItems, relabelItems, relabel_congr fun y hy => h y (List.mem_append_left _ hy),
      relabelItems_congr fun y hy => h y (List.mem_append_right _ hy)]

end

end Value

namespace Store

/-- The first mapping has an entry whose value refers to the second. -/
def Refers (σ : Store) (x y : MapRef) : Prop := ∃ e ∈ σ.entries x, y ∈ e.2.mapRefs

/-- The second mapping can be reached from the first through values and lists. -/
def Reaches (σ : Store) : MapRef → MapRef → Prop := Relation.ReflTransGen σ.Refers

/-- All that a mapping reaches, itself included, are dictionaries of the store. -/
def ReachesDictionaries (σ : Store) (m : MapRef) : Prop :=
  ∀ x, σ.Reaches m x → ∃ a d, x = .cell a ∧ σ.mappings[a]? = some (.dictionary d)

/-- In a store of dictionaries that refer to cells of the store only, this holds of every cell. -/
theorem reachesDictionaries_of_closed {σ : Store}
    (h : ∀ a, a < σ.mappings.size → ∃ d, σ.mappings[a]? = some (.dictionary d) ∧
      ∀ e ∈ d.entries.toList, ∀ y ∈ e.2.mapRefs, ∃ b, y = .cell b ∧ b < σ.mappings.size)
    {a : Nat} (ha : a < σ.mappings.size) : σ.ReachesDictionaries (.cell a) := by
  intro x hx
  have hcell : ∃ b, x = .cell b ∧ b < σ.mappings.size := by
    induction hx with
    | refl => exact ⟨a, rfl, ha⟩
    | tail _ hstep ih =>
      obtain ⟨b, rfl, hb⟩ := ih
      obtain ⟨e, he, hy⟩ := hstep
      obtain ⟨d, hd, hrefs⟩ := h b hb
      rw [entries, mapping_of_getElem? hd] at he
      exact hrefs e he _ hy
  obtain ⟨b, rfl, hb⟩ := hcell
  obtain ⟨d, hd, _⟩ := h b hb
  exact ⟨b, d, rfl, hd⟩

end Store

end DuckTyping
