import DuckTyping.Proofs.MemberSets
import DuckTyping.Proofs.ReportedTerms

set_option autoImplicit false

/-!
# Which member answers to a name

Where names are matched ignoring case, the member of a schema that answers to a name is the one so
called, else the first in the order of the schema that matches. Schemas that are the same may differ
in their order, so they may have different members answer to one name: those that are rivals for it.
A typer keeps the plan that it made for the first of such schemas and hands it out for the others.
What the plan says of a name is then what a fresh inspection says exactly if the same member
answers, and the members that are rivals for a name are the only ones that can be mistaken.
-/

namespace DuckTyping

/-! ## Matches that ignore case -/

namespace Shape

variable {s t : Shape} {name : String} {m : Member}

/-- Members with different names match the name ignoring case, and none is so called. -/
def HasRivals (s : Shape) (name : String) : Prop :=
  s.member? name = none ∧ ∃ a ∈ s.members, ∃ b ∈ s.members, a.name ≠ b.name ∧
    KeyComparison.ignoreCase.keysMatch a.name name = true ∧
    KeyComparison.ignoreCase.keysMatch b.name name = true

/-- The first member that matches the name ignoring case. -/
def firstMatch? (s : Shape) (name : String) : Option Member :=
  s.members.find? fun m => KeyComparison.ignoreCase.keysMatch m.name name

theorem of_firstMatch? (h : s.firstMatch? name = some m) :
    m ∈ s.members ∧ KeyComparison.ignoreCase.keysMatch m.name name = true := by
  have hmatch := List.find?_some h
  exact ⟨List.mem_of_find?_eq_some h, hmatch⟩

theorem exists_firstMatch? (hm : m ∈ s.members)
    (hmatch : KeyComparison.ignoreCase.keysMatch m.name name = true) :
    ∃ first, s.firstMatch? name = some first :=
  Option.isSome_iff_exists.1 (List.find?_isSome.2 ⟨m, hm, hmatch⟩)

/-- A name that is matched in one of two schemas that are the same is matched in the other, by a
member that may not be the first there. -/
theorem exists_match_of_same (h : s.same t = true) (hs : s.firstMatch? name = some m) :
    ∃ c ∈ t.members, c.name = m.name ∧ KeyComparison.ignoreCase.keysMatch c.name name = true := by
  obtain ⟨hm, hmatch⟩ := of_firstMatch? hs
  obtain ⟨c, hc, hname⟩ := List.mem_map.1 ((mem_names_congr h).1 (List.mem_map_of_mem hm))
  exact ⟨c, hc, hname, hname ▸ hmatch⟩

theorem firstMatch?_congr (h : s.same t = true) (ht : t.member? name = none)
    (hrivals : ¬ t.HasRivals name) :
    (s.firstMatch? name).map Member.name = (t.firstMatch? name).map Member.name := by
  cases hs : s.firstMatch? name with
  | none =>
    cases hfirst : t.firstMatch? name with
    | none => rfl
    | some b =>
      have hts : t.same s = true := same_iff.2 (same_iff.1 h).symm
      obtain ⟨c, hc, _, hmatch⟩ := exists_match_of_same hts hfirst
      obtain ⟨first, hsome⟩ := exists_firstMatch? hc hmatch
      rw [hs] at hsome
      cases hsome
  | some a =>
    obtain ⟨c, hc, hname, hmatch⟩ := exists_match_of_same h hs
    obtain ⟨b, hfirst⟩ := exists_firstMatch? hc hmatch
    obtain ⟨hb, hother⟩ := of_firstMatch? hfirst
    rw [hfirst]
    refine congrArg some (Classical.not_not.1 fun hdiffers => hrivals ?_)
    exact ⟨ht, c, hc, b, hb, hname ▸ hdiffers, hmatch, hother⟩

end Shape

namespace Resolution

theorem source?_canonical (r : Resolution) : r.canonical.source? = r.source? := by
  cases r <;> rfl

theorem source?_eq_of_same {r s : Resolution} (h : r.same s = true) : r.source? = s.source? := by
  rw [← source?_canonical r, same_iff.1 h, source?_canonical]

end Resolution

namespace Inspector

variable {i : Inspector} {s t schema : Shape} {name : String} {m n : Member}

/-- The name of the member of a schema that answers to a name. -/
def answering? (i : Inspector) (schema : Shape) (name : String) : Option String :=
  (i.findMember? schema name).map Member.name

/-! ## The member that answers -/

/-- The member that answers is the one of its own name: a member of that name in front of it would
have answered. -/
theorem member?_of_findMember? {found : Member} (h : i.findMember? schema name = some found) :
    schema.member? found.name = some found := by
  unfold findMember? at h
  split at h
  · rename_i m hexact
    cases h
    rw [(Shape.mem_of_member? hexact).2]
    exact hexact
  · split at h
    · obtain ⟨hmatch, before, after, hmembers, hbefore⟩ := List.find?_eq_some_iff_append.1 h
      refine List.find?_eq_some_iff_append.2
        ⟨beq_self_eq_true _, before, after, hmembers, fun a ha => ?_⟩
      rw [Bool.not_eq_true', beq_eq_false_iff_ne]
      intro hname
      have hother := hbefore a ha
      rw [hname, hmatch] at hother
      cases hother
    · cases h

/-- Of schemas that are the same, the same member answers to a name if it has the same name. -/
theorem findMember?_congr (h : s.same t = true)
    (hname : i.answering? s name = i.answering? t name) :
    (i.findMember? s name).map Member.canonical = (i.findMember? t name).map Member.canonical := by
  unfold answering? at hname
  cases hs : i.findMember? s name with
  | none =>
    rw [hs, Option.map_none] at hname
    rw [Option.map_eq_none_iff.1 hname.symm]
  | some found =>
    rw [hs, Option.map_some] at hname
    obtain ⟨found', ht, heq⟩ := Option.map_eq_some_iff.1 hname.symm
    have hmember := Shape.map_canonical_member?_of_same h found.name
    rw [member?_of_findMember? hs, ← heq, member?_of_findMember? ht] at hmember
    rw [ht]
    exact hmember

theorem ResolvesProperty.source?_eq {source : String} {wanted declared : ValueType}
    {r : Resolution} (h : i.ResolvesProperty source wanted declared r)
    (hr : r.isUnresolved = false) : r.source? = some source := by
  cases h with
  | mismatch => cases hr
  | _ => rfl

theorem source?_resolveFound {found : Member}
    (h : (i.resolveFound m found).isUnresolved = false) :
    (i.resolveFound m found).source? = some found.name := by
  obtain ⟨name, kind, optional⟩ := m
  obtain ⟨source, foundKind, foundOptional⟩ := found
  cases kind with
  | method wanted =>
    cases foundKind with
    | method declared =>
      simp only [resolveFound] at h ⊢
      split
      · rfl
      · rename_i hdiffers
        rw [if_neg hdiffers] at h
        cases h
    | property declared writable => cases h
  | property wanted writable =>
    cases foundKind with
    | method declared => cases h
    | property declared foundWritable =>
      exact (i.resolvesProperty_resolveProperty source wanted declared).source?_eq h

/-- What a member resolves to has the member that answers to its name as its source, unless it is
unresolved. -/
theorem source?_resolveMember (h : (i.resolveMember schema m).isUnresolved = false) :
    (i.resolveMember schema m).source? = i.answering? schema m.name := by
  unfold answering?
  unfold resolveMember at h ⊢
  cases hfound : i.findMember? schema m.name with
  | none =>
    simp only [hfound] at h ⊢
    cases hoptional : m.optional with
    | true => rfl
    | false =>
      rw [hoptional] at h
      cases h
  | some found =>
    simp only [hfound] at h ⊢
    exact source?_resolveFound h

/-- Members that are not rivals for a name answer to it in any order. -/
theorem answering?_congr (h : s.same t = true) (hrivals : ¬ t.HasRivals name) :
    i.answering? s name = i.answering? t name := by
  have hexact := Shape.map_canonical_member?_of_same h name
  unfold answering? findMember?
  cases hs : s.member? name with
  | some m =>
    rw [hs, Option.map_some] at hexact
    obtain ⟨n, ht, _⟩ := Option.map_eq_some_iff.1 hexact.symm
    rw [ht]
    exact congrArg some ((Shape.mem_of_member? hs).2.trans (Shape.mem_of_member? ht).2.symm)
  | none =>
    rw [hs, Option.map_none] at hexact
    have ht := Option.map_eq_none_iff.1 hexact.symm
    rw [ht]
    cases i.options.fuzzy with
    | false => rfl
    | true => exact Shape.firstMatch?_congr h ht hrivals

/-! ## Plans for schemas that are the same -/

theorem resolution?_inspectSchema (shape schema : Shape) (name : String) :
    (i.inspectSchema shape schema).resolution? name =
      (shape.member? name).map (i.resolveMember schema) := by
  rw [Plan.resolution?, inspectSchema, List.find?_map, Option.map_map]
  rfl

/-- Plans for shapes and schemas that are the same agree on a name if the same member answers to it.
-/
theorem resolution?_congr {shape shape' : Shape} (hshape : shape.same shape' = true)
    (h : s.same t = true) (hname : i.answering? s name = i.answering? t name) :
    Option.Rel (fun r r' => r.same r' = true) ((i.inspectSchema shape s).resolution? name)
      ((i.inspectSchema shape' t).resolution? name) := by
  have hmember := Shape.map_canonical_member?_of_same hshape name
  rw [resolution?_inspectSchema, resolution?_inspectSchema]
  cases hm : shape.member? name with
  | none =>
    rw [hm, Option.map_none] at hmember
    rw [Option.map_eq_none_iff.1 hmember.symm]
    exact .none
  | some m =>
    rw [hm, Option.map_some] at hmember
    obtain ⟨n, hn, hcanonical⟩ := Option.map_eq_some_iff.1 hmember.symm
    rw [hn]
    refine .some (Resolution.same_iff.2 (resolveMember_congr hcanonical.symm ?_))
    rw [(Shape.mem_of_member? hm).2, (Shape.mem_of_member? hn).2]
    exact findMember?_congr h hname

theorem answering?_eq_of_rel {shape shape' : Shape} {r : Resolution}
    (hr : (i.inspectSchema shape s).resolution? name = some r) (hresolved : r.isUnresolved = false)
    (h : Option.Rel (fun r r' => r.same r' = true) ((i.inspectSchema shape s).resolution? name)
      ((i.inspectSchema shape' t).resolution? name)) :
    i.answering? s name = i.answering? t name := by
  rw [resolution?_inspectSchema] at hr h
  rw [resolution?_inspectSchema] at h
  obtain ⟨m, hm, rfl⟩ := Option.map_eq_some_iff.1 hr
  rw [hm, Option.map_some] at h
  cases hn : shape'.member? name with
  | none =>
    rw [hn] at h
    cases h
  | some n =>
    rw [hn, Option.map_some] at h
    cases h with
    | some hsame =>
      have hother : (i.resolveMember t n).isUnresolved = false := by
        rw [← Resolution.isUnresolved_canonical, ← Resolution.same_iff.1 hsame,
          Resolution.isUnresolved_canonical, hresolved]
      have hsource := Resolution.source?_eq_of_same hsame
      rw [source?_resolveMember hresolved, source?_resolveMember hother,
        (Shape.mem_of_member? hm).2, (Shape.mem_of_member? hn).2] at hsource
      exact hsource

end Inspector

namespace Typer

/-! ## What a typer makes of a name -/

/-- The typer resolves a name against an object as a fresh inspection does. -/
def ResolvesLikeFresh (t : Typer) (σ : Store) (shape : Shape) (o : ObjectRef) (name : String) :
    Prop :=
  Option.Rel (fun r s => r.same s = true) ((t.explain σ shape (.object o)).1.resolution? name)
    ((t.inspector.inspect σ shape (.object o)).resolution? name)

/-- The schema by which a request for an object is answered after some calls. -/
def servingSchema (calls : List TyperCall) (σ : Store) (shape : Shape) (o : ObjectRef) : Shape :=
  (servingKey calls σ shape o).schema

theorem plan_of_tryAdapt {t : Typer} {σ : Store} {shape : Shape} {source : Source} {a : Adapter}
    (h : (t.tryAdapt σ shape source).1 = .ok a) : a.plan = (t.explain σ shape source).1 := by
  simp only [tryAdapt, Adapter.build] at h
  split at h
  · cases h
    rfl
  · cases h

/-- **Which names a remembered plan resolves like a fresh one.** A typer that remembers plans
answers a request for an object, whatever calls came before, by a schema that is the same as the
object's up to its order. It resolves a name as a fresh inspection does if the same member answers
to the name in both, and only then if it resolves the name at all; and the same member answers
unless there are rivals for the name. -/
theorem resolvesLikeFresh_iff_answering {i : Inspector}
    (hmemo : i.options.memoizeObjectPlans = true) (calls : List TyperCall) (σ : Store)
    (shape : Shape) (o : ObjectRef) :
    let t := afterAll { inspector := i } calls
    let first := servingSchema calls σ shape o
    first.same (σ.schema o) = true ∧
      (∀ a, (t.tryAdapt σ shape (.object o)).1 = .ok a →
        a.plan = (t.explain σ shape (.object o)).1) ∧
      ∀ name,
        (i.answering? first name = i.answering? (σ.schema o) name →
          t.ResolvesLikeFresh σ shape o name) ∧
        (∀ r, (t.explain σ shape (.object o)).1.resolution? name = some r →
          r.isUnresolved = false → t.ResolvesLikeFresh σ shape o name →
            i.answering? first name = i.answering? (σ.schema o) name) ∧
        (¬ (σ.schema o).HasRivals name →
          i.answering? first name = i.answering? (σ.schema o) name) := by
  intro t first
  obtain ⟨hsame, hplan⟩ := plan_of_servingKey hmemo calls σ shape o
  obtain ⟨hshape, _, hschema⟩ := PlanKey.same_iff.1 hsame
  have hfirst : first.same (σ.schema o) = true := Shape.same_iff.2 hschema
  have hinspector : t.inspector = i := (memoSound_of_history i calls).2
  have hexplain : (t.explain σ shape (.object o)).1 =
      i.inspectSchema (servingKey calls σ shape o).shape first := hinspector ▸ hplan
  refine ⟨hfirst, fun a ha => plan_of_tryAdapt ha, fun name => ⟨fun hname => ?_, ?_, ?_⟩⟩
  · rw [ResolvesLikeFresh, hexplain, hinspector, Inspector.inspect_object]
    exact Inspector.resolution?_congr (Shape.same_iff.2 hshape) hfirst hname
  · intro r hr hresolved hlike
    rw [ResolvesLikeFresh, hexplain, hinspector, Inspector.inspect_object] at hlike
    rw [hexplain] at hr
    exact Inspector.answering?_eq_of_rel hr hresolved hlike
  · exact Inspector.answering?_congr hfirst

/-- Two objects of one type that list two rivals for `Id` in different orders: the plan made for the
first serves the second, and resolves `Name`, for which there are no rivals, as it should be. -/
theorem resolvesLikeFresh_iff_answering_rivals :
    let integer := fun name => (⟨name, .property .integer false, false⟩ : Member)
    let pair := fun names => HostObject.foreign ⟨⟨1, "Pair", names.map integer⟩, [], none, []⟩
    let σ : Store := ⟨#[], #[pair ["id", "ID", "name"], pair ["ID", "name", "id"]], 0⟩
    let box : Shape := ⟨2, "Box", [integer "Id", integer "Name"]⟩
    let i : Inspector := ⟨.empty, { fuzzy := true }⟩
    let calls : List TyperCall := [.explain σ box (.object ⟨"Pair", 0⟩)]
    let t := afterAll { inspector := i } calls
    let o : ObjectRef := ⟨"Pair", 1⟩
    let first := servingSchema calls σ box o
    i.options.memoizeObjectPlans = true ∧
      first.members.map Member.name = ["id", "ID", "name"] ∧ first.same (σ.schema o) = true ∧
      ¬ (σ.schema o).HasRivals "Name" ∧ t.ResolvesLikeFresh σ box o "Name" := by
  intro integer pair σ box i calls t o first
  have hmemo : i.options.memoizeObjectPlans = true := rfl
  have horder : first.members.map Member.name = ["id", "ID", "name"] := by decide +kernel
  have hrivals : ¬ (σ.schema o).HasRivals "Name" := by
    have hname : ∀ m ∈ (σ.schema o).members,
        KeyComparison.ignoreCase.keysMatch m.name "Name" = true → m.name = "name" := by
      decide +kernel
    rintro ⟨_, a, ha, b, hb, hne, hamatch, hbmatch⟩
    exact hne ((hname a ha hamatch).trans (hname b hb hbmatch).symm)
  obtain ⟨hsame, _, hnames⟩ := resolvesLikeFresh_iff_answering hmemo calls σ box o
  obtain ⟨hlike, _, hanswering⟩ := hnames "Name"
  exact ⟨hmemo, horder, hsame, hrivals, hlike (hanswering hrivals)⟩

/-- After a request for an object that has `id` in front of `ID`, one for an object of the same type
that has them the other way round is answered by a plan in which `Id` stands for `id`. Inspection
chooses `ID`. -/
theorem not_resolvesLikeFresh_reordered :
    let integer := fun name => (⟨name, .property .integer false, false⟩ : Member)
    let pair := fun names => HostObject.foreign ⟨⟨1, "Pair", names.map integer⟩, [], none, []⟩
    let σ : Store := ⟨#[], #[pair ["id", "ID"], pair ["ID", "id"]], 0⟩
    let box : Shape := ⟨2, "Box", [integer "Id"]⟩
    let i : Inspector := ⟨.empty, { fuzzy := true }⟩
    let t := afterAll { inspector := i } [.explain σ box (.object ⟨"Pair", 0⟩)]
    let o : ObjectRef := ⟨"Pair", 1⟩
    i.options.fuzzy = true ∧ i.options.memoizeObjectPlans = true ∧
      ((t.explain σ box (.object o)).1.resolution? "Id").bind Resolution.source? = some "id" ∧
      ((i.inspect σ box (.object o)).resolution? "Id").bind Resolution.source? = some "ID" ∧
      ¬ t.ResolvesLikeFresh σ box o "Id" := by
  intro integer pair σ box i t o
  have hexplained : ((t.explain σ box (.object o)).1.resolution? "Id").bind Resolution.source? =
      some "id" := by decide +kernel
  have hfresh : ((i.inspect σ box (.object o)).resolution? "Id").bind Resolution.source? =
      some "ID" := by decide +kernel
  refine ⟨rfl, rfl, hexplained, hfresh, fun h => ?_⟩
  change Option.Rel _ _ ((i.inspect σ box (.object o)).resolution? "Id") at h
  generalize (t.explain σ box (.object o)).1.resolution? "Id" = r at h hexplained
  generalize (i.inspect σ box (.object o)).resolution? "Id" = r' at h hfresh
  cases h with
  | none => cases hfresh
  | some hsame =>
    rw [Option.bind_some] at hexplained hfresh
    rw [Resolution.source?_eq_of_same hsame, hfresh] at hexplained
    exact absurd hexplained (by decide)

end Typer

end DuckTyping
