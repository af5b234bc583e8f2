import DuckTyping.Proofs.PlanMemo
import DuckTyping.Proofs.SchemaResolutions
import Mathlib.Data.List.Flatten

set_option autoImplicit false

/-!
# In whose terms plans are reported

A typer that remembers plans answers a request for an object in the terms of a shape, under its name
and in the order of its members. That shape is the first one that was asked for with the same key
since the memory was last emptied, and the requested one only if there was none. Both have the same
members, but the name and the order may differ: a plan may be reported under another name and in
another order than those of the shape that was requested.
-/

namespace DuckTyping

theorem PlanKey.same_iff {k l : PlanKey} :
    k.same l = true ↔ k.shape.canonical = l.shape.canonical ∧ k.typeName = l.typeName ∧
      k.schema.canonical = l.schema.canonical := by
  simp only [PlanKey.same, Bool.and_eq_true, beq_iff_eq, Shape.same_iff, and_assoc]

theorem PlanKey.same_trans {k l m : PlanKey} (hkl : k.same l = true) (hlm : l.same m = true) :
    k.same m = true := by
  obtain ⟨hshape, hname, hschema⟩ := same_iff.1 hkl
  obtain ⟨hshape', hname', hschema'⟩ := same_iff.1 hlm
  exact same_iff.2 ⟨hshape.trans hshape', hname.trans hname', hschema.trans hschema'⟩

namespace Typer

/-! ## Which requests the memory serves -/

/-- The key of a request; there is none for a mapping. -/
def requestKey? (σ : Store) (shape : Shape) : Source → Option PlanKey
  | .object o => some (planKey σ shape o)
  | .map _ => none

/-- The keys that were requested since the memory was last emptied, after one more call. -/
def note (keys : List PlanKey) : TyperCall → List PlanKey
  | .explain σ shape source | .canAdapt σ shape source | .tryAdapt σ shape source =>
    keys ++ (requestKey? σ shape source).toList
  | .clear => []

/-- The keys that were requested since the memory was last emptied, in order. -/
def requestedKeys (calls : List TyperCall) : List PlanKey := calls.foldl note []

/-- Under each key the memory holds the plan made for the first of these keys that is the same. -/
def MemoServes (t : Typer) (keys : List PlanKey) : Prop :=
  ∀ key, (t.memo.find? (·.1.same key)).map (·.1) = keys.find? (·.same key)

variable {t : Typer} {keys : List PlanKey} {σ : Store} {shape : Shape} {o : ObjectRef}

/-- A request for an object adds its key, unless a plan is remembered for it. -/
theorem MemoServes.request_object (h : t.MemoServes keys)
    (hmemo : t.inspector.options.memoizeObjectPlans = true) :
    (t.request σ shape (.object o)).2.MemoServes (keys ++ [planKey σ shape o]) := by
  intro key
  rw [Typer.request_object, if_pos hmemo, List.find?_append, ← h key]
  have hown := h (planKey σ shape o)
  unfold remembered?
  cases hfound : t.memo.find? (·.1.same (planKey σ shape o)) with
  | some e =>
    -- a key that is the same as the new one is served by the remembered plan already
    simp only [Option.map_some]
    cases hserved : t.memo.find? (·.1.same key) with
    | some e' => rfl
    | none =>
      have hsame := List.find?_some hfound
      have hother := List.find?_eq_none.1 hserved e (List.mem_of_find?_eq_some hfound)
      have hnew : (planKey σ shape o).same key = false := by
        rw [Bool.eq_false_iff]
        exact fun hkey => hother (PlanKey.same_trans hsame hkey)
      simp [hnew]
  | none =>
    simp only [Option.map_none, issue, List.find?_append, Option.map_or]
    cases hnew : (planKey σ shape o).same key <;> simp [hnew]

theorem MemoServes.request (h : t.MemoServes keys)
    (hmemo : t.inspector.options.memoizeObjectPlans = true) (source : Source) :
    (t.request σ shape source).2.MemoServes (keys ++ (requestKey? σ shape source).toList) := by
  cases source with
  | map m =>
    simp only [requestKey?, Option.toList_none, List.append_nil]
    exact h
  | object o => exact h.request_object hmemo

theorem MemoServes.after (h : t.MemoServes keys)
    (hmemo : t.inspector.options.memoizeObjectPlans = true) (call : TyperCall) :
    (t.after call).MemoServes (note keys call) := by
  cases call with
  | explain σ shape source => exact h.request hmemo source
  | canAdapt σ shape source => exact h.request hmemo source
  | tryAdapt σ shape source => exact h.request hmemo source
  | clear => exact fun _ => rfl

theorem MemoServes.afterAll (h : t.MemoServes keys) (hsound : t.MemoSound)
    (hmemo : t.inspector.options.memoizeObjectPlans = true) (calls : List TyperCall) :
    (t.afterAll calls).MemoServes (calls.foldl note keys) := by
  induction calls generalizing t keys with
  | nil => exact h
  | cons call rest ih =>
    obtain ⟨hstep, hinspector⟩ := memoSound_after hsound call
    exact ih (h.after hmemo call) hstep (hinspector ▸ hmemo)

/-! ## Terms -/

/-- The shape in whose terms the plan for an object is reported after some calls. -/
def reportedShape (calls : List TyperCall) (σ : Store) (shape : Shape) (o : ObjectRef) : Shape :=
  (((requestedKeys calls).find? (·.same (planKey σ shape o))).map (·.shape)).getD shape

/-- The key of the request whose plan serves a request for an object after some calls: the first
with the same key since the memory was last emptied, else the request itself. -/
def servingKey (calls : List TyperCall) (σ : Store) (shape : Shape) (o : ObjectRef) : PlanKey :=
  ((requestedKeys calls).find? (·.same (planKey σ shape o))).getD (planKey σ shape o)

theorem shape_servingKey (calls : List TyperCall) (σ : Store) (shape : Shape) (o : ObjectRef) :
    (servingKey calls σ shape o).shape = reportedShape calls σ shape o := by
  unfold servingKey reportedShape
  cases (requestedKeys calls).find? (·.same (planKey σ shape o)) <;> rfl

/-- The plan that answers a request for an object is made for the shape and the schema of the key
that serves it, which is the same as the requested one. -/
theorem plan_of_servingKey {i : Inspector} (hmemo : i.options.memoizeObjectPlans = true)
    (calls : List TyperCall) (σ : Store) (shape : Shape) (o : ObjectRef) :
    let t := afterAll { inspector := i } calls
    let key := servingKey calls σ shape o
    key.same (planKey σ shape o) = true ∧
      (t.request σ shape (.object o)).1.plan = t.inspector.inspectSchema key.shape key.schema := by
  intro t key
  have hserves : MemoServes { inspector := i } [] := fun _ => rfl
  obtain ⟨hsound, hinspector⟩ := memoSound_of_history i calls
  have hkey := hserves.afterAll (memoSound_of_history i []).1 hmemo calls (planKey σ shape o)
  rw [Typer.request_object, if_pos (hinspector ▸ hmemo)]
  unfold remembered? key servingKey requestedKeys
  rw [← hkey]
  cases hfound : t.memo.find? (·.1.same (planKey σ shape o)) with
  | some e =>
    have hsame := List.find?_some hfound
    exact ⟨hsame, hsound e (List.mem_of_find?_eq_some hfound)⟩
  | none =>
    have hown : (planKey σ shape o).same (planKey σ shape o) = true :=
      PlanKey.same_iff.2 ⟨rfl, rfl, rfl⟩
    exact ⟨hown, Inspector.inspect_object σ shape o⟩

theorem exists_plan_for_reportedShape {i : Inspector}
    (hmemo : i.options.memoizeObjectPlans = true) (calls : List TyperCall) (σ : Store)
    (shape : Shape) (o : ObjectRef) :
    let t := afterAll { inspector := i } calls
    let first := reportedShape calls σ shape o
    first.same shape = true ∧ ∃ schema, schema.same (σ.schema o) = true ∧
      (t.request σ shape (.object o)).1.plan = t.inspector.inspectSchema first schema := by
  intro t first
  obtain ⟨hsame, hplan⟩ := plan_of_servingKey hmemo calls σ shape o
  obtain ⟨hshape, _, hschema⟩ := PlanKey.same_iff.1 hsame
  rw [shape_servingKey] at hshape hplan
  exact ⟨Shape.same_iff.2 hshape, _, Shape.same_iff.2 hschema, hplan⟩

/-- The plan is reported in the terms of the shape: under its name and in the order of its members.
-/
structure PlanReportedAs (plan : Plan) (terms : Shape) : Prop where
  name : plan.shape.name = terms.name
  order : plan.entries.map PlanEntry.name = terms.members.map Member.name

/-- The typer answers a request in the terms of the shape: the plan that explains it, the plan of
the adapter, and the paths of a refusal. -/
structure ReportsAs (t : Typer) (σ : Store) (shape : Shape) (source : Source) (terms : Shape) :
    Prop where
  explains : PlanReportedAs (t.explain σ shape source).1 terms
  adapts : ∀ a, (t.tryAdapt σ shape source).1 = .ok a → PlanReportedAs a.plan terms
  refuses : ∀ name paths, (t.tryAdapt σ shape source).1 = .error (.unsatisfiable name paths) →
    paths.Sublist (terms.members.map Member.name)

theorem ReportsAs.congr {source : Source} {terms terms' : Shape}
    (h : t.ReportsAs σ shape source terms) (hname : terms.name = terms'.name)
    (horder : terms.members.map Member.name = terms'.members.map Member.name) :
    t.ReportsAs σ shape source terms' where
  explains := ⟨h.explains.name.trans hname, h.explains.order.trans horder⟩
  adapts := fun a ha => ⟨(h.adapts a ha).name.trans hname, (h.adapts a ha).order.trans horder⟩
  refuses := fun name paths hpaths => horder ▸ h.refuses name paths hpaths

theorem planReportedAs_inspectSchema (i : Inspector) (shape schema : Shape) :
    PlanReportedAs (i.inspectSchema shape schema) shape := by
  refine ⟨rfl, ?_⟩
  simp only [Inspector.inspectSchema, List.map_map]
  rfl

/-- The unresolved paths of an object are names of members, in the order of the shape. -/
theorem unresolved_inspectSchema_sublist (i : Inspector) (shape schema : Shape) :
    (i.inspectSchema shape schema).unresolved.Sublist (shape.members.map Member.name) := by
  rw [Plan.unresolved, Inspector.inspectSchema, List.flatMap_map, List.map_eq_flatMap]
  refine List.Sublist.flatMap_right _ fun m _ => ?_
  have hnested := i.resolveMember_ne_nested schema m
  unfold PlanEntry.unresolved
  cases hresolution : i.resolveMember schema m with
  | unresolved reason =>
    cases reason with
    | nested paths => exact absurd hresolution (hnested paths)
    | _ => exact List.Sublist.refl _
  | _ => exact List.nil_sublist _

/-- The answers to a request are in the terms of the shape that its plan was made for. -/
theorem reportsAs_of_plan {source : Source} {terms schema : Shape}
    (h : (t.request σ shape source).1.plan = t.inspector.inspectSchema terms schema) :
    t.ReportsAs σ shape source terms := by
  have hplan := planReportedAs_inspectSchema t.inspector terms schema
  have hpaths := unresolved_inspectSchema_sublist t.inspector terms schema
  rw [← h] at hplan hpaths
  refine ⟨hplan, fun a ha => ?_, fun name paths ha => ?_⟩
  all_goals
    simp only [tryAdapt, Adapter.build] at ha
    split at ha
  · cases ha
    exact hplan
  · cases ha
  · cases ha
  · cases ha
    exact hpaths

/-- **In whose terms plans are reported.** A typer that remembers plans answers every request for an
object, whatever calls came before, in the terms of one shape with the same members: the first that
was requested with the same key since the memory was last emptied, else the requested one. It
answers in the terms of the requested shape exactly if that one has its name and order. -/
theorem reportsAs_reportedShape {i : Inspector} (hmemo : i.options.memoizeObjectPlans = true)
    (calls : List TyperCall) (σ : Store) (shape : Shape) (o : ObjectRef) :
    let t := afterAll { inspector := i } calls
    let first := reportedShape calls σ shape o
    first.same shape = true ∧ t.ReportsAs σ shape (.object o) first ∧
      (t.ReportsAs σ shape (.object o) shape ↔ first.name = shape.name ∧
        first.members.map Member.name = shape.members.map Member.name) := by
  intro t first
  obtain ⟨hsame, schema, _, hplan⟩ := exists_plan_for_reportedShape hmemo calls σ shape o
  have hfirst : t.ReportsAs σ shape (.object o) first := reportsAs_of_plan hplan
  refine ⟨hsame, hfirst, fun hshape => ?_, fun ⟨hname, horder⟩ => hfirst.congr hname horder⟩
  exact ⟨hfirst.explains.name.symm.trans hshape.explains.name,
    hfirst.explains.order.symm.trans hshape.explains.order⟩

/-- Two objects of one type that list their members in different orders, before and after the memory
is emptied: the request for `Person` is answered in the terms of `Named`. -/
theorem reportsAs_reportedShape_cleared :
    let name : Member := ⟨"Name", .property .text false, false⟩
    let age : Member := ⟨"Age", .property .integer false, false⟩
    let user := fun members => HostObject.foreign ⟨⟨1, "User", members⟩, [], none, []⟩
    let σ : Store := ⟨#[], #[user [name, age], user [age, name]], 0⟩
    let person : Shape := ⟨2, "Person", [name, age]⟩
    let named : Shape := ⟨3, "Named", [age, name]⟩
    let i : Inspector := ⟨.empty, {}⟩
    let calls : List TyperCall := [.explain σ person (.object ⟨"User", 0⟩), .clear,
      .canAdapt σ named (.object ⟨"User", 1⟩), .tryAdapt σ person (.object ⟨"User", 0⟩)]
    let t := afterAll { inspector := i } calls
    let first := reportedShape calls σ person ⟨"User", 0⟩
    i.options.memoizeObjectPlans = true ∧ first.name = "Named" ∧ first.same person = true ∧
      t.ReportsAs σ person (.object ⟨"User", 0⟩) first ∧
      (t.ReportsAs σ person (.object ⟨"User", 0⟩) person ↔ first.name = person.name ∧
        first.members.map Member.name = person.members.map Member.name) := by
  intro name age user σ person named i calls t first
  have hmemo : i.options.memoizeObjectPlans = true := rfl
  have hfirst : first.name = "Named" := by decide +kernel
  exact ⟨hmemo, hfirst, reportsAs_reportedShape hmemo calls σ person ⟨"User", 0⟩⟩

/-- After a request for `Person`, one for `Named` with the same two members in the other order is
answered by a plan for `Person`, and refused with the paths in the order of `Person`. -/
theorem not_reportsAs_requested :
    let name : Member := ⟨"Name", .property .text false, false⟩
    let age : Member := ⟨"Age", .property .integer false, false⟩
    let object := fun members => HostObject.foreign ⟨⟨1, "Object", members⟩, [], none, []⟩
    let σ : Store := ⟨#[], #[object [name, age], object []], 0⟩
    let person : Shape := ⟨2, "Person", [name, age]⟩
    let named : Shape := ⟨3, "Named", [age, name]⟩
    let full : Source := .object ⟨"User", 0⟩
    let bare : Source := .object ⟨"Empty", 1⟩
    let i : Inspector := ⟨.empty, {}⟩
    let t := afterAll { inspector := i } [.explain σ person full, .explain σ person bare]
    i.options.memoizeObjectPlans = true ∧
      (t.explain σ named full).1.shape.name = "Person" ∧
      (t.explain σ named full).1.entries.map PlanEntry.name = ["Name", "Age"] ∧
      (t.tryAdapt σ named bare).1 = .error (.unsatisfiable "Named" ["Name", "Age"]) ∧
      ¬ t.ReportsAs σ named full named ∧ ¬ t.ReportsAs σ named bare named := by
  intro name age object σ person named full bare i t
  have hname : (t.explain σ named full).1.shape.name = "Person" := by decide +kernel
  have hunsatisfiable : ¬ (t.explain σ named bare).1.isSatisfiable = true := by decide +kernel
  have hpaths : (t.explain σ named bare).1.unresolved = ["Name", "Age"] := by decide +kernel
  have hrefused : (t.tryAdapt σ named bare).1 =
      .error (.unsatisfiable "Named" ["Name", "Age"]) := by
    rw [← hpaths]
    exact if_neg hunsatisfiable
  refine ⟨rfl, hname, by decide +kernel, hrefused, fun h => ?_, fun h => ?_⟩
  · rw [h.explains.name] at hname
    exact absurd hname (by decide)
  · exact absurd (h.refuses _ _ hrefused) (by decide)

end Typer

end DuckTyping
