import DuckTyping.Proofs.HonouredPlans
import DuckTyping.Proofs.RecordRuns
import DuckTyping.Proofs.TypedReads

set_option autoImplicit false

/-!
# Record objects read through unchanged

What a record object declares it keeps, so the types that a plan was made from stay true of what the
object holds. A member that is resolved as direct is one whose declared type can be read as the type
that is wanted: its value needs no conversion, and an adapter hands out what the object itself does.
That holds for every adapter that was obtained over the object at any time, also when its plan was
made for another object of the same type and schema.
-/

namespace DuckTyping

theorem Value.conformsTo_of_isAssignable {v : Value} {a b : ValueType}
    (hab : a.isAssignable b = true) (h : v.conformsTo a = true) : v.conformsTo b = true := by
  rcases ValueType.isAssignable_iff.1 hab with hsame | rfl | ⟨s, t, rfl, rfl, _⟩
  · rw [← conformsTo_canonical, ← ValueType.same_iff.1 hsame, conformsTo_canonical]
    exact h
  · exact conformsTo_any v
  · exact conformsTo_shape_iff.2 (conformsTo_shape_iff.1 h)

theorem Inspector.exists_property_of_resolveMember {i : Inspector} {schema : Shape} {m : Member}
    {source : String} (h : i.resolveMember schema m = .direct source) :
    m.isProperty = true ∧ ∃ declared writable optional,
      ⟨source, .property declared writable, optional⟩ ∈ schema.members ∧
        declared.isAssignable m.valueType = true := by
  have hresolves := i.resolvesMember_resolveMember schema m
  rw [h] at hresolves
  cases hresolves with
  | property hkind hfound hproperty =>
    cases hproperty with
    | direct hassignable =>
      refine ⟨by rw [Member.isProperty, hkind], _, _, _, hfound, ?_⟩
      rw [Member.valueType, hkind]
      exact hassignable

namespace RecordObject

variable {r r' : RecordObject} {schema : Shape} {source : String}

/-- A property of a schema that is the same as the object's stands for a field, which holds a value
that fits. -/
theorem exists_field_of_same (hsame : schema.same r.schema = true) {type : ValueType}
    {writable optional : Bool}
    (h : ⟨source, .property type writable, optional⟩ ∈ schema.members) :
    ∃ v, r.get source = .ok v ∧ v.conformsTo type = true := by
  obtain ⟨⟨own, kind, ownOptional⟩, hown, heq⟩ := Shape.exists_mem_of_same hsame h
  cases kind with
  | method signature => cases heq
  | property ownType ownWritable =>
    simp only [Member.canonical, MemberKind.canonical, Member.mk.injEq,
      MemberKind.property.injEq] at heq
    obtain ⟨rfl, ⟨htype, rfl⟩, rfl⟩ := heq
    obtain ⟨v, hget, hfits⟩ := exists_field_of_mem_schema hown
    refine ⟨v, hget, ?_⟩
    rw [← Value.conformsTo_canonical, ← htype, Value.conformsTo_canonical]
    exact hfits

end RecordObject

/-- Over this object the adapter reads every direct member as the object itself does. -/
def Adapter.ReadsThrough (a : Adapter) (σ : Store) (r : RecordObject) : Prop :=
  ∀ name source, a.plan.resolution? name = some (.direct source) →
    ∃ v, r.get source = .ok v ∧ a.read σ name = .ok v

/-- An adapter over a record object reads through, if its plan was made for a schema that is the
same as the object's. -/
theorem Adapter.readsThrough_of_plan {a : Adapter} {i : Inspector} {shape schema : Shape}
    {o : ObjectRef} {σ : Store} {r : RecordObject} (hsource : a.source = .object o)
    (hsatisfiable : a.plan.isSatisfiable = true) (hplan : a.plan = i.inspectSchema shape schema)
    (hsame : schema.same r.schema = true) (hr : σ.object o.address = .record r) :
    a.ReadsThrough σ r := by
  intro name source hdirect
  rw [Plan.resolution?_eq_map_entryFor?] at hdirect
  obtain ⟨e, he, hresolution⟩ := Option.map_eq_some_iff.1 hdirect
  have hmem := (Plan.mem_of_entryFor? he).1
  rw [hplan] at hmem
  obtain ⟨m, _, rfl⟩ := List.mem_map.1 hmem
  obtain ⟨hproperty, declared, writable, optional, hfound, hassignable⟩ :=
    Inspector.exists_property_of_resolveMember hresolution
  obtain ⟨v, hget, hfits⟩ := RecordObject.exists_field_of_same hsame hfound
  have hfetch : a.fetch σ source = .ok v := by
    rw [fetch, hsource]
    simp only [Store.readMember, hr, hget]
  have hwanted := Value.conformsTo_of_isAssignable hassignable hfits
  refine ⟨v, hget, ?_⟩
  rw [read_of_direct hsatisfiable he hproperty σ hresolution, hfetch]
  exact coerce_of_keeps (by rw [hwanted, Bool.or_true])

/-- The plan of an adapter over a record object was made for a shape and a schema that are the same
as those of the adapter and of the object, in every later state of the object. -/
theorem Typer.exists_plan_of_tryAdapt {i : Inspector} (history : List TyperCall) {σ : Store}
    {shape : Shape} {o : ObjectRef} {a : Adapter} {r r' : RecordObject}
    (ha : ((afterAll { inspector := i } history).tryAdapt σ shape (.object o)).1 = .ok a)
    (hr : σ.object o.address = .record r) (hevolves : r.Evolves r') :
    a.shape = shape ∧ a.source = .object o ∧ a.plan.isSatisfiable = true ∧
      ∃ shape' schema, shape'.same shape = true ∧ schema.same r'.schema = true ∧
        a.plan = i.inspectSchema shape' schema := by
  obtain ⟨hsound, hinspector⟩ := memoSound_of_history i history
  obtain ⟨shape', schema, hshape, hschema, hplan⟩ := exists_plan_of_request hsound σ shape o
  rw [Adapter.tryAdapt_eq_build] at ha
  obtain ⟨hsatisfiable, rfl⟩ := Adapter.build_eq_ok_iff.1 ha
  have hshown : σ.schema o = r.schema := by rw [Store.schema, hr]; rfl
  refine ⟨rfl, rfl, hsatisfiable, shape', schema, hshape, ?_, ?_⟩
  · rw [hevolves.schema_eq, ← hshown]
    exact hschema
  · exact hplan.trans (congrArg (·.inspectSchema shape' schema) hinspector)

theorem Typer.readsThrough_of_tryAdapt {i : Inspector} (history : List TyperCall) {σ τ : Store}
    {shape : Shape} {o : ObjectRef} {a : Adapter} {r r' : RecordObject}
    (ha : ((afterAll { inspector := i } history).tryAdapt σ shape (.object o)).1 = .ok a)
    (hr : σ.object o.address = .record r) (hevolves : r.Evolves r')
    (hr' : τ.object o.address = .record r') : a.ReadsThrough τ r' := by
  obtain ⟨-, hsource, hsatisfiable, _, schema, -, hsame, hplan⟩ :=
    exists_plan_of_tryAdapt history ha hr hevolves
  exact Adapter.readsThrough_of_plan hsource hsatisfiable hplan hsame hr'

/-- **A record object stays well-typed and reads through unchanged.** Whatever is written to an
object and called on it, it keeps what it was declared with. A write that is refused leaves the
store as it is. An adapter that a typer of any configuration and with any memory makes for the
object reads each direct member as the object does, then and in every later state. -/
theorem RecordObject.afterAll_keepsDeclaration_readsThrough {serial : Nat} {typeName : String}
    {members : List RecordMember} {declared : RecordObject}
    (hdeclare : declare serial typeName members = .ok declared) (calls : List RecordCall) :
    let r := declared.afterAll calls
    r.KeepsDeclaration serial typeName members ∧
      (∀ (σ : Store) (o : ObjectRef) (name : String) (v : Value) (e : HostError),
        σ.object o.address = .record r → r.set name v = .error e →
          (Store.writeMemberSteps o name v).perform σ = (.error e, σ)) ∧
      ∀ (i : Inspector) (history : List TyperCall) (σ τ : Store) (shape : Shape) (o : ObjectRef)
        (a : Adapter) (later : List RecordCall), σ.object o.address = .record r →
        ((Typer.afterAll { inspector := i } history).tryAdapt σ shape (.object o)).1 = .ok a →
        τ.object o.address = .record (r.afterAll later) →
          a.ReadsThrough τ (r.afterAll later) := by
  intro r
  refine ⟨(evolves_afterAll declared calls).keepsDeclaration hdeclare,
    fun σ o name v e hr hrefused => ?_, fun i history σ τ shape o a later hr ha hτ => ?_⟩
  · rw [Store.perform_writeMemberSteps, Store.writeMember, hr]
    simp only [hrefused]
    rfl
  · exact Typer.readsThrough_of_tryAdapt history ha hr (evolves_afterAll r later) hτ

/-- A name of the wrong type and a field without a setter are refused; a method whose body tries to
write the one and then writes a name is carried out. The adapter's plan was made for another object
of the same type, which lists its members in another order. -/
theorem RecordObject.afterAll_keepsDeclaration_readsThrough_renamed :
    let rename : List Value → Script := fun args =>
      .readField "Age" fun age => .writeField "Name" (age.getD .null) fun _ =>
        .writeField "Name" (args.headD .null) fun _ => .done (.ok .null)
    let members : List RecordMember := [.field "Name" .text true (.text "Ann"),
      .field "Age" .integer false (.int 30), .method "Rename" ⟨[.text], .any⟩ rename]
    let calls : List RecordCall :=
      [.set "Name" (.int 3), .set "Age" (.int 31), .invoke "Rename" [.text "Bob"]]
    ∃ declared a, declare 0 "User" members = .ok declared ∧
      let r := declared.afterAll calls
      let other : HostObject :=
        .foreign ⟨⟨1, "User", (members.map RecordMember.declaration).reverse⟩, [], none, []⟩
      let σ : Store := ⟨#[], #[.record r, other], 0⟩
      let shape : Shape := ⟨2, "Who", [⟨"name", .property .text false, false⟩]⟩
      let i : Inspector := ⟨.default, { fuzzy := true }⟩
      let t := Typer.afterAll { inspector := i } [.explain σ shape (.object ⟨"User", 1⟩)]
      (t.tryAdapt σ shape (.object ⟨"User", 0⟩)).1 = .ok a ∧
        a.plan.resolution? "name" = some (.direct "Name") ∧
        r.KeepsDeclaration 0 "User" members ∧
        (Store.writeMemberSteps ⟨"User", 0⟩ "Age" (.int 32)).perform σ =
          (.error (.readOnly "Age"), σ) ∧
        r.get "Name" = .ok (.text "Bob") ∧ a.read σ "name" = .ok (.text "Bob") := by
  intro rename members calls
  let declared : RecordObject :=
    { serial := 0, typeName := "User", members := members
      names_nodup := by decide
      typed := by simp [members, RecordMember.IsTyped, Value.conformsTo, Value.valueType] }
  have hdeclare : declare 0 "User" members = .ok declared := by with_unfolding_all rfl
  let r := declared.afterAll calls
  let other : HostObject :=
    .foreign ⟨⟨1, "User", (members.map RecordMember.declaration).reverse⟩, [], none, []⟩
  let σ : Store := ⟨#[], #[.record r, other], 0⟩
  let shape : Shape := ⟨2, "Who", [⟨"name", .property .text false, false⟩]⟩
  let i : Inspector := ⟨.default, { fuzzy := true }⟩
  let history : List TyperCall := [.explain σ shape (.object ⟨"User", 1⟩)]
  let t := Typer.afterAll { inspector := i } history
  let plan := (t.request σ shape (.object ⟨"User", 0⟩)).1.plan
  let a : Adapter := ⟨t.inspector, shape, .object ⟨"User", 0⟩, plan⟩
  have hsatisfiable : plan.isSatisfiable = true := by decide +kernel
  have ha : (t.tryAdapt σ shape (.object ⟨"User", 0⟩)).1 = .ok a :=
    Adapter.build_eq_ok_iff.2 ⟨hsatisfiable, rfl⟩
  have hdirect : a.plan.resolution? "name" = some (.direct "Name") := by
    have hsame : (a.plan.resolution? "name").any (·.same (.direct "Name")) = true := by
      decide +kernel
    obtain ⟨resolution, hfound, hsame⟩ := (Option.any_eq_true _ _).1 hsame
    rw [hfound]
    cases resolution with
    | direct source => rw [beq_iff_eq.1 hsame]
    | _ => cases hsame
  have hget : r.get "Name" = .ok (.text "Bob") := by with_unfolding_all rfl
  have hage : r.member? "Age" = some (.field "Age" .integer false (.int 30)) := by
    with_unfolding_all rfl
  have hrefused : r.set "Age" (.int 32) = .error (.readOnly "Age") := set_of_field hage _
  obtain ⟨hkeeps, hfailing, hreads⟩ :=
    afterAll_keepsDeclaration_readsThrough hdeclare calls
  obtain ⟨v, hv, hread⟩ :=
    hreads i history σ σ shape ⟨"User", 0⟩ a [] rfl ha rfl "name" "Name" hdirect
  have hsame : v = .text "Bob" := Except.ok.inj (hv.symm.trans hget)
  subst hsame
  exact ⟨declared, a, hdeclare, ha, hdirect, hkeeps,
    hfailing σ ⟨"User", 0⟩ "Age" (.int 32) _ rfl hrefused, hget, hread⟩

end DuckTyping
