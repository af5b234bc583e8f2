import DuckTyping.Proofs.PlanAgreement
import DuckTyping.Typer.Typer

set_option autoImplicit false

/-!
# The memory of plans does not show

Every remembered plan is the one that inspection makes of the shape and the schema in its key, and
no request changes that. Where names are matched exactly, a plan that is remembered for another
shape or schema that is the same agrees with the one that would be made afresh. A typer therefore
answers at any moment of its life as a plain inspection at that moment does, whatever was asked
before and whatever became of the objects in the meantime.
-/

namespace DuckTyping

/-! ## The life of a typer -/

/-- What may be done with a typer. Each request comes with the store as it is at the time. -/
inductive TyperCall where
  | explain (σ : Store) (shape : Shape) (source : Source)
  | canAdapt (σ : Store) (shape : Shape) (source : Source)
  | tryAdapt (σ : Store) (shape : Shape) (source : Source)
  | clear

namespace Typer

/-- The typer after a call. -/
def after (t : Typer) : TyperCall → Typer
  | .explain σ shape source => (t.explain σ shape source).2
  | .canAdapt σ shape source => (t.canAdapt σ shape source).2
  | .tryAdapt σ shape source => (t.tryAdapt σ shape source).2
  | .clear => t.clear

/-- The typer after some calls, one after another. -/
def afterAll (t : Typer) (calls : List TyperCall) : Typer := calls.foldl after t

/-- A call is a request that may add to the memory, or empties it. -/
theorem after_eq (t : Typer) (call : TyperCall) :
    (∃ σ shape source, t.after call = (t.request σ shape source).2) ∨ t.after call = t.clear := by
  cases call with
  | explain σ shape source => exact .inl ⟨σ, shape, source, rfl⟩
  | canAdapt σ shape source => exact .inl ⟨σ, shape, source, rfl⟩
  | tryAdapt σ shape source => exact .inl ⟨σ, shape, source, rfl⟩
  | clear => exact .inr rfl

/-- The key under which a typer remembers the plan for an object. -/
def planKey (σ : Store) (shape : Shape) (o : ObjectRef) : PlanKey :=
  ⟨shape, o.typeName, σ.schema o⟩

theorem request_object (t : Typer) (σ : Store) (shape : Shape) (o : ObjectRef) :
    t.request σ shape (.object o) =
      if t.inspector.options.memoizeObjectPlans then
        match t.remembered? (planKey σ shape o) with
        | some plan => (plan, t)
        | none =>
          let (plan, after) := t.issue σ shape (.object o)
          (plan, { after with memo := after.memo ++ [(planKey σ shape o, plan)] })
      else t.issue σ shape (.object o) := rfl

/-- A request is answered from the memory, or by a new plan that may be remembered. -/
theorem request_cases (t : Typer) (σ : Store) (shape : Shape) (source : Source) :
    (∃ o plan, source = .object o ∧ t.remembered? (planKey σ shape o) = some plan ∧
      t.request σ shape source = (plan, t)) ∨
    ((t.request σ shape source).1.plan = t.inspector.inspect σ shape source ∧
      (t.request σ shape source).2.inspector = t.inspector ∧
      ((t.request σ shape source).2.memo = t.memo ∨
        ∃ o, source = .object o ∧ (t.request σ shape source).2.memo =
          t.memo ++ [(planKey σ shape o, (t.request σ shape source).1)])) := by
  cases source with
  | map m => exact .inr ⟨rfl, rfl, .inl rfl⟩
  | object o =>
    rw [request_object]
    split
    · cases hfound : t.remembered? (planKey σ shape o) with
      | some plan => exact .inl ⟨o, plan, rfl, hfound, rfl⟩
      | none => exact .inr ⟨rfl, rfl, .inr ⟨o, rfl, rfl⟩⟩
    · exact .inr ⟨rfl, rfl, .inl rfl⟩

/-! ## What the memory holds -/

/-- Every remembered plan is what inspection makes of the shape and the schema in its key. -/
def MemoSound (t : Typer) : Prop :=
  ∀ e ∈ t.memo, e.2.plan = t.inspector.inspectSchema e.1.shape e.1.schema

theorem memoSound_clear (t : Typer) : t.clear.MemoSound :=
  fun _ he => absurd he List.not_mem_nil

/-- A request keeps the memory sound, and the inspector. -/
theorem memoSound_request {t : Typer} (h : t.MemoSound) (σ : Store) (shape : Shape)
    (source : Source) :
    (t.request σ shape source).2.MemoSound ∧
      (t.request σ shape source).2.inspector = t.inspector := by
  obtain ⟨o, plan, _, _, hrequest⟩ | ⟨hplan, hinspector, hmemo⟩ :=
    t.request_cases σ shape source
  · rw [hrequest]
    exact ⟨h, rfl⟩
  · refine ⟨fun e he => ?_, hinspector⟩
    rw [hinspector]
    rcases hmemo with hmemo | ⟨o, hsource, hmemo⟩
    · rw [hmemo] at he
      exact h e he
    · rw [hmemo, List.mem_append, List.mem_singleton] at he
      rcases he with he | rfl
      · exact h e he
      · subst hsource
        exact hplan.trans (Inspector.inspect_object σ shape o)

theorem memoSound_after {t : Typer} (h : t.MemoSound) (call : TyperCall) :
    (t.after call).MemoSound ∧ (t.after call).inspector = t.inspector := by
  obtain ⟨σ, shape, source, hafter⟩ | hafter := t.after_eq call
  · rw [hafter]
    exact memoSound_request h σ shape source
  · rw [hafter]
    exact ⟨t.memoSound_clear, rfl⟩

theorem memoSound_afterAll {t : Typer} (h : t.MemoSound) (calls : List TyperCall) :
    (t.afterAll calls).MemoSound ∧ (t.afterAll calls).inspector = t.inspector := by
  induction calls generalizing t with
  | nil => exact ⟨h, rfl⟩
  | cons call rest ih =>
    obtain ⟨hstep, hinspector⟩ := memoSound_after h call
    obtain ⟨hrest, hkept⟩ := ih hstep
    exact ⟨hrest, hkept.trans hinspector⟩

/-- The memory of a typer is sound at every moment of its life. -/
theorem memoSound_of_history (i : Inspector) (calls : List TyperCall) :
    (afterAll { inspector := i } calls).MemoSound ∧
      (afterAll { inspector := i } calls).inspector = i :=
  memoSound_afterAll (fun _ he => absurd he List.not_mem_nil) calls

theorem plan_of_remembered? {t : Typer} (h : t.MemoSound) {key : PlanKey} {plan : IssuedPlan}
    (hfound : t.remembered? key = some plan) :
    ∃ made : PlanKey, made.same key = true ∧
      plan.plan = t.inspector.inspectSchema made.shape made.schema := by
  obtain ⟨e, he, rfl⟩ := Option.map_eq_some_iff.1 hfound
  have hsame := List.find?_some he
  exact ⟨e.1, hsame, h e (List.mem_of_find?_eq_some he)⟩

/-- The plan for an object is what inspection makes of a shape and a schema that are the same as
the requested shape and the schema of the object. -/
theorem exists_plan_of_request {t : Typer} (h : t.MemoSound) (σ : Store) (shape : Shape)
    (o : ObjectRef) :
    ∃ shape' schema, shape'.same shape = true ∧ schema.same (σ.schema o) = true ∧
      (t.request σ shape (.object o)).1.plan = t.inspector.inspectSchema shape' schema := by
  obtain ⟨o', plan, hsource, hfound, hrequest⟩ | ⟨hplan, _, _⟩ :=
    t.request_cases σ shape (.object o)
  · cases hsource
    obtain ⟨made, hsame, hmade⟩ := plan_of_remembered? h hfound
    simp only [PlanKey.same, Bool.and_eq_true] at hsame
    exact ⟨made.shape, made.schema, hsame.1.1, hsame.2, hrequest ▸ hmade⟩
  · exact ⟨shape, σ.schema o, Shape.same_refl _, Shape.same_refl _,
      hplan.trans (Inspector.inspect_object σ shape o)⟩

theorem request_agrees {t : Typer} (h : t.MemoSound) (hexact : t.inspector.options.fuzzy = false)
    (σ : Store) (shape : Shape) (source : Source) :
    (t.request σ shape source).1.plan.Agrees (t.inspector.inspect σ shape source) := by
  cases source with
  | map m => exact Plan.agrees_refl _
  | object o =>
    obtain ⟨shape', schema, hshape, hschema, hplan⟩ := exists_plan_of_request h σ shape o
    rw [hplan, Inspector.inspect_object]
    exact Inspector.inspectSchema_agrees hexact hshape hschema

/-! ## Answers -/

/-- A typer answers a request as the plan `fresh` does: it explains by a plan that agrees, and
adapts by one, or refuses with the unresolved paths in some order. -/
structure AnswersLike (t : Typer) (fresh : Plan) (σ : Store) (shape : Shape) (source : Source) :
    Prop where
  explains : (t.explain σ shape source).1.Agrees fresh
  canAdapt : (t.canAdapt σ shape source).1 = fresh.isSatisfiable
  adapts : fresh.isSatisfiable = true → ∃ adapter,
    (t.tryAdapt σ shape source).1 = .ok adapter ∧ adapter.plan.Agrees fresh
  refuses : fresh.isSatisfiable = false → ∃ paths,
    (t.tryAdapt σ shape source).1 = .error (.unsatisfiable shape.name paths) ∧
      paths.Perm fresh.unresolved

/-- All answers follow from the plan for the request. -/
theorem answersLike_of_agrees {t : Typer} {fresh : Plan} {σ : Store} {shape : Shape}
    {source : Source} (h : (t.request σ shape source).1.plan.Agrees fresh) :
    t.AnswersLike fresh σ shape source where
  explains := h
  canAdapt := h.isSatisfiable
  adapts := by
    intro hfresh
    have hplan := h.isSatisfiable.trans hfresh
    exact ⟨⟨t.inspector, shape, source, (t.request σ shape source).1.plan⟩, if_pos hplan, h⟩
  refuses := by
    intro hfresh
    have hplan := h.isSatisfiable.trans hfresh
    exact ⟨_, if_neg (Bool.eq_false_iff.1 hplan), h.unresolved⟩

/-- **The memory of plans does not show.** A typer that matches names exactly answers every request
like a fresh inspection at that moment, whatever calls came before. -/
theorem afterAll_answersLike_inspect {i : Inspector} (hexact : i.options.fuzzy = false)
    (calls : List TyperCall) (σ : Store) (shape : Shape) (source : Source) :
    (afterAll { inspector := i } calls).AnswersLike (i.inspect σ shape source) σ shape source := by
  have hempty : MemoSound { inspector := i } := fun _ he => absurd he List.not_mem_nil
  obtain ⟨hsound, hinspector⟩ := memoSound_afterAll hempty calls
  have hplan := request_agrees hsound (hinspector ▸ hexact) σ shape source
  rw [hinspector] at hplan
  exact answersLike_of_agrees hplan

/-- Two objects of one type name, and two shapes, that list their members in different orders: the
plan made for the first request serves the second. -/
theorem afterAll_answersLike_inspect_reordered :
    let name : Member := ⟨"Name", .property .text false, false⟩
    let age : Member := ⟨"Age", .property .integer false, false⟩
    let foreign := fun schema : Shape => HostObject.foreign ⟨schema, [], none, []⟩
    let σ : Store := ⟨#[], #[foreign ⟨1, "User", [name, age]⟩, foreign ⟨2, "User", [age, name]⟩], 0⟩
    let i : Inspector := ⟨.empty, { fuzzy := false }⟩
    let t := afterAll { inspector := i }
      [.explain σ ⟨3, "Person", [name, age]⟩ (.object ⟨"User", 0⟩)]
    let shape : Shape := ⟨4, "Named", [age, name]⟩
    let source : Source := .object ⟨"User", 1⟩
    i.options.fuzzy = false ∧ (t.request σ shape source).2.memoSize = 1 ∧
      t.AnswersLike (i.inspect σ shape source) σ shape source := by
  intro name age foreign σ i t shape source
  have hexact : i.options.fuzzy = false := rfl
  have hserved : (t.request σ shape source).2.memoSize = 1 := by decide +kernel
  exact ⟨hexact, hserved, afterAll_answersLike_inspect hexact _ σ shape source⟩

end Typer

end DuckTyping
