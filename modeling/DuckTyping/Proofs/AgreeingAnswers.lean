import DuckTyping.Proofs.ReportedTerms
import Mathlib.Data.Finset.Card

set_option autoImplicit false

/-!
# The answers of a typer agree

Whether a source satisfies a shape may be asked in three ways: for a plan that explains it, for the
bare verdict, and for an adapter. Each answer may teach the typer a plan. The three are given by one
plan all the same, and go on being given by it however often they are asked for and whatever else is
asked in between, as long as the memory is not emptied. The memory holds one plan for each of the
different keys that were asked for since it was last emptied, and nothing else.
-/

namespace DuckTyping

/-- The call asks about a shape and a source in one of the three ways. -/
inductive TyperCall.Asks (σ : Store) (shape : Shape) (source : Source) : TyperCall → Prop
  | explain : Asks σ shape source (.explain σ shape source)
  | canAdapt : Asks σ shape source (.canAdapt σ shape source)
  | tryAdapt : Asks σ shape source (.tryAdapt σ shape source)

theorem TyperCall.exists_asks {call : TyperCall} (h : call ≠ .clear) :
    ∃ σ shape source, call.Asks σ shape source := by
  cases call with
  | explain σ shape source => exact ⟨σ, shape, source, .explain⟩
  | canAdapt σ shape source => exact ⟨σ, shape, source, .canAdapt⟩
  | tryAdapt σ shape source => exact ⟨σ, shape, source, .tryAdapt⟩
  | clear => exact absurd rfl h

/-! ## Keys -/

/-- Keys that are the same as each other. -/
instance PlanKey.setoid : Setoid PlanKey where
  r k l := k.same l = true
  iseqv := {
    refl _ := same_iff.2 ⟨rfl, rfl, rfl⟩
    symm h := by
      obtain ⟨hshape, hname, hschema⟩ := same_iff.1 h
      exact same_iff.2 ⟨hshape.symm, hname.symm, hschema.symm⟩
    trans := same_trans }

instance : DecidableRel fun k l : PlanKey => k ≈ l :=
  fun k l => inferInstanceAs (Decidable (k.same l = true))

/-- The number of keys in a list that are different from each other. -/
def PlanKey.countDifferent (keys : List PlanKey) : Nat :=
  (keys.map (Quotient.mk PlanKey.setoid)).toFinset.card

namespace Typer

variable {t : Typer} {keys : List PlanKey} {σ : Store} {shape : Shape} {source : Source}

/-! ## One plan for three answers -/

/-- The plan gives all three answers: it is the one that explains, its verdict is the bare verdict,
and an adapter is built by it or refused with its unresolved paths. -/
structure AnswersBy (t : Typer) (plan : Plan) (σ : Store) (shape : Shape) (source : Source) :
    Prop where
  explains : (t.explain σ shape source).1 = plan
  canAdapt : (t.canAdapt σ shape source).1 = plan.isSatisfiable
  adapts : (∃ a, (t.tryAdapt σ shape source).1 = .ok a) ↔ plan.isSatisfiable = true
  refuses : plan.isSatisfiable = false →
    (t.tryAdapt σ shape source).1 = .error (.unsatisfiable shape.name plan.unresolved)

theorem answersBy_request (t : Typer) (σ : Store) (shape : Shape) (source : Source) :
    t.AnswersBy (t.request σ shape source).1.plan σ shape source where
  explains := rfl
  canAdapt := rfl
  adapts := by
    simp only [tryAdapt, Adapter.build]
    split
    · rename_i hsatisfiable
      exact ⟨fun _ => hsatisfiable, fun _ => ⟨_, rfl⟩⟩
    · rename_i hunsatisfiable
      constructor
      · rintro ⟨a, ha⟩
        cases ha
      · intro h
        exact absurd h hunsatisfiable
  refuses h := if_neg (Bool.eq_false_iff.1 h)

/-! ## What a request leaves behind -/

/-- A question in any of the three ways makes one request. -/
theorem after_of_asks {call : TyperCall} (h : call.Asks σ shape source) :
    t.after call = (t.request σ shape source).2 := by
  cases h <;> rfl

/-- Without a memory every plan is made afresh. -/
theorem request_of_forgetful (h : t.inspector.options.memoizeObjectPlans = false) (σ : Store)
    (shape : Shape) (source : Source) : t.request σ shape source = t.issue σ shape source := by
  cases source with
  | map m => rfl
  | object o => rw [request_object, if_neg (Bool.eq_false_iff.1 h)]

theorem inspector_request (t : Typer) (σ : Store) (shape : Shape) (source : Source) :
    (t.request σ shape source).2.inspector = t.inspector := by
  obtain ⟨o, plan, _, _, hrequest⟩ | ⟨_, hinspector, _⟩ := t.request_cases σ shape source
  · rw [hrequest]
  · exact hinspector

theorem remembered?_request {key : PlanKey} {plan : IssuedPlan}
    (h : t.remembered? key = some plan) (σ : Store) (shape : Shape) (source : Source) :
    (t.request σ shape source).2.remembered? key = some plan := by
  unfold remembered? at h ⊢
  obtain ⟨o, other, _, _, hrequest⟩ | ⟨_, _, hmemo | ⟨o, _, hmemo⟩⟩ :=
    t.request_cases σ shape source
  · rw [hrequest]
    exact h
  · rw [hmemo]
    exact h
  · obtain ⟨e, he, rfl⟩ := Option.map_eq_some_iff.1 h
    rw [hmemo, List.find?_append, he]
    rfl

theorem remembered?_planKey (hmemo : t.inspector.options.memoizeObjectPlans = true) (σ : Store)
    (shape : Shape) (o : ObjectRef) :
    (t.request σ shape (.object o)).2.remembered? (planKey σ shape o) =
      some (t.request σ shape (.object o)).1 := by
  rw [request_object, if_pos hmemo]
  cases hfound : t.remembered? (planKey σ shape o) with
  | some plan => exact hfound
  | none =>
    have hown : (planKey σ shape o).same (planKey σ shape o) = true :=
      PlanKey.same_iff.2 ⟨rfl, rfl, rfl⟩
    have hnone := Option.map_eq_none_iff.1 hfound
    simp [remembered?, issue, List.find?_append, hnone, hown]

theorem kept_afterAll {calls : List TyperCall} (hcalls : TyperCall.clear ∉ calls) :
    (t.afterAll calls).inspector = t.inspector ∧
      ∀ key plan, t.remembered? key = some plan →
        (t.afterAll calls).remembered? key = some plan := by
  induction calls generalizing t with
  | nil => exact ⟨rfl, fun _ _ h => h⟩
  | cons call rest ih =>
    rw [List.mem_cons, not_or] at hcalls
    obtain ⟨σ, shape, source, hasks⟩ := TyperCall.exists_asks (Ne.symm hcalls.1)
    obtain ⟨hinspector, hkept⟩ := ih (t := t.after call) hcalls.2
    rw [after_of_asks hasks] at hinspector hkept
    rw [afterAll, List.foldl_cons, after_of_asks hasks]
    exact ⟨hinspector.trans (t.inspector_request σ shape source),
      fun key plan h => hkept key plan (remembered?_request h σ shape source)⟩

/-- A request that is made again, after any others, is answered by the same plan. -/
theorem plan_request_again {calls : List TyperCall} (hcalls : TyperCall.clear ∉ calls) (σ : Store)
    (shape : Shape) (source : Source) :
    (((t.request σ shape source).2.afterAll calls).request σ shape source).1.plan =
      (t.request σ shape source).1.plan := by
  obtain ⟨hinspector, hkept⟩ := kept_afterAll (t := (t.request σ shape source).2) hcalls
  rw [inspector_request] at hinspector
  generalize (t.request σ shape source).2.afterAll calls = later at hinspector hkept ⊢
  have hissue : (later.issue σ shape source).1.plan = (t.issue σ shape source).1.plan := by
    simp only [issue, hinspector]
  cases source with
  | map m => exact hissue
  | object o =>
    cases hmemo : t.inspector.options.memoizeObjectPlans with
    | true =>
      have hagain := hkept _ _ (remembered?_planKey hmemo σ shape o)
      rw [request_object, hinspector, if_pos hmemo, hagain]
    | false =>
      rw [request_of_forgetful (hinspector ▸ hmemo), request_of_forgetful hmemo]
      exact hissue

/-! ## The size of the memory -/

/-- No two keys of the memory are the same. -/
def MemoDistinct (t : Typer) : Prop :=
  (t.memo.map fun e => Quotient.mk PlanKey.setoid e.1).Nodup

/-- A request keeps the keys distinct: it adds one only where none is the same. -/
theorem MemoDistinct.request (h : t.MemoDistinct) (σ : Store) (shape : Shape) (source : Source) :
    (t.request σ shape source).2.MemoDistinct := by
  cases source with
  | map m => exact h
  | object o =>
    rw [request_object]
    split
    · cases hfound : t.remembered? (planKey σ shape o) with
      | some plan => exact h
      | none =>
        have hnone := List.find?_eq_none.1 (Option.map_eq_none_iff.1 hfound)
        rw [MemoDistinct, List.map_append, List.map_singleton]
        refine List.nodup_append.2 ⟨h, List.nodup_singleton _, ?_⟩
        intro c hc d hd hsame
        obtain ⟨e, he, rfl⟩ := List.mem_map.1 hc
        rw [List.mem_singleton.1 hd] at hsame
        exact hnone e he (Quotient.exact hsame)
    · exact h

theorem MemoDistinct.after (h : t.MemoDistinct) (call : TyperCall) :
    (t.after call).MemoDistinct := by
  obtain ⟨σ, shape, source, hafter⟩ | hafter := t.after_eq call
  · rw [hafter]
    exact h.request σ shape source
  · rw [hafter]
    exact List.nodup_nil

theorem MemoDistinct.afterAll (h : t.MemoDistinct) (calls : List TyperCall) :
    (t.afterAll calls).MemoDistinct := by
  induction calls generalizing t with
  | nil => exact h
  | cons call rest ih => exact ih (h.after call)

/-- A memory that serves some keys has an entry for each of those that differ. -/
theorem MemoServes.memoSize_eq (h : t.MemoServes keys) (hdistinct : t.MemoDistinct) :
    t.memoSize = PlanKey.countDifferent keys := by
  have hclasses : (t.memo.map fun e => Quotient.mk PlanKey.setoid e.1).toFinset =
      (keys.map (Quotient.mk PlanKey.setoid)).toFinset := by
    ext c
    induction c using Quotient.ind with
    | _ key =>
    have hserved := congrArg Option.isSome (h key)
    rw [Option.isSome_map, Bool.eq_iff_iff, List.find?_isSome, List.find?_isSome] at hserved
    simp only [List.mem_toFinset, List.mem_map, Quotient.eq]
    exact hserved
  rw [PlanKey.countDifferent, ← hclasses, List.toFinset_card_of_nodup hdistinct, List.length_map,
    memoSize]

theorem memo_afterAll_of_forgetful (h : t.inspector.options.memoizeObjectPlans = false)
    (hmemo : t.memo = []) (calls : List TyperCall) : (t.afterAll calls).memo = [] := by
  induction calls generalizing t with
  | nil => exact hmemo
  | cons call rest ih =>
    obtain ⟨σ, shape, source, hafter⟩ | hafter := t.after_eq call
    · rw [request_of_forgetful h] at hafter
      rw [afterAll, List.foldl_cons, hafter]
      exact ih h hmemo
    · rw [afterAll, List.foldl_cons, hafter]
      exact ih h rfl

/-- **The answers agree, and the memory counts its keys.** At every moment in the life of a typer
one plan gives all three answers about a shape and a source, and once one of them was asked for it
goes on giving them, in whatever order they are asked for and whatever else is requested in between.
The memory has one entry for each of the different keys that were requested since it was last
emptied, if plans are remembered at all, and a request for a mapping adds none. -/
theorem answers_agree_and_memo_counts (i : Inspector) (calls : List TyperCall) :
    let t := afterAll { inspector := i } calls
    (∀ σ shape source, ∃ plan, t.AnswersBy plan σ shape source ∧
      ∀ call more, TyperCall.Asks σ shape source call → TyperCall.clear ∉ more →
        (t.afterAll (call :: more)).AnswersBy plan σ shape source) ∧
      t.memoSize =
        (if i.options.memoizeObjectPlans then PlanKey.countDifferent (requestedKeys calls) else 0) ∧
      ∀ σ shape m call, TyperCall.Asks σ shape (.map m) call →
        (t.after call).memoSize = t.memoSize := by
  intro t
  refine ⟨fun σ shape source => ⟨_, t.answersBy_request σ shape source, fun call more hcall hmore =>
    ?_⟩, ?_, fun σ shape m call hcall => ?_⟩
  · rw [afterAll, List.foldl_cons, after_of_asks hcall, ← plan_request_again hmore]
    exact answersBy_request _ σ shape source
  · cases hmemo : i.options.memoizeObjectPlans with
    | true =>
      have hserves : MemoServes { inspector := i } [] := fun _ => rfl
      have hdistinct : MemoDistinct { inspector := i } := List.nodup_nil
      exact (hserves.afterAll (memoSound_of_history i []).1 hmemo calls).memoSize_eq
        (hdistinct.afterAll calls)
    | false =>
      have hempty : t.memo = [] := memo_afterAll_of_forgetful hmemo rfl calls
      rw [memoSize, hempty]
      rfl
  · rw [after_of_asks hcall]
    rfl

/-- Shapes with the same members share an entry, another shape has one of its own, and a mapping has
none. -/
example :
    let name : Member := ⟨"Name", .property .text false, false⟩
    let age : Member := ⟨"Age", .property .integer false, false⟩
    let user := fun members => HostObject.foreign ⟨⟨1, "User", members⟩, [], none, []⟩
    let σ : Store := ⟨#[], #[user [name, age], user [age, name]], 0⟩
    (afterAll { inspector := ⟨.empty, {}⟩ }
      [.explain σ ⟨2, "Person", [name, age]⟩ (.object ⟨"User", 0⟩),
        .canAdapt σ ⟨3, "Named", [age, name]⟩ (.object ⟨"User", 1⟩),
        .tryAdapt σ ⟨4, "Aged", [age]⟩ (.object ⟨"User", 0⟩),
        .explain σ ⟨4, "Aged", [age]⟩ (.map (.cell 0))]).memoSize = 2 := by
  decide +kernel

end Typer

end DuckTyping
