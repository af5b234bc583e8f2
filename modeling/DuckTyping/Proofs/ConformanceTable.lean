import DuckTyping.Proofs.ConformanceOrder
import DuckTyping.Types.ConformanceContext

set_option autoImplicit false

/-!
# The table of a conformance session does not show

Where each serial number belongs to one declaration and the members of a declaration have distinct
names, a session of questions gives the plain answers and leaves its table as it was: a shape
conforms to itself, as the short cut takes it to, and a pair of shapes is never met again below
itself, because what is expected gets smaller on the way down. So what is known of conformance holds
of the answers of a session. Among such shapes a gap also parts the source from the target, so that
the gaps are all that keeps conformance from being a preorder.
-/

namespace DuckTyping

/-- The shape and all that occur in it are the declarations that `decl` lists under their serial
numbers, and their members have distinct names. -/
def Shape.Declared (decl : Nat → Shape) (s : Shape) : Prop :=
  ∀ t, s.Occurs t → decl t.serial = t ∧ (t.members.map Member.name).Nodup

/-- If the type is a shape, it is declared. -/
def ValueType.Declared (decl : Nat → Shape) (a : ValueType) : Prop :=
  ∀ s, a = .shape s → s.Declared decl

namespace Shape

variable {decl : Nat → Shape}

/-- A shape is declared if it is listed, its members have distinct names and the shapes of its
properties are declared. -/
theorem declared_iff {s : Shape} :
    s.Declared decl ↔ decl s.serial = s ∧ (s.members.map Member.name).Nodup ∧
      ∀ t, s.Nests t → t.Declared decl := by
  constructor
  · intro h
    exact ⟨(h s .refl).1, (h s .refl).2, fun t ht r hr => h r (.head ht hr)⟩
  · rintro ⟨hlisted, hnames, hnested⟩ t ht
    rcases occurs_iff.1 ht with rfl | ⟨r, hr, hoccurs⟩
    · exact ⟨hlisted, hnames⟩
    · exact hnested r hr t hoccurs

theorem Declared.of_nests {s t : Shape} (hs : s.Declared decl) (h : s.Nests t) :
    t.Declared decl :=
  (declared_iff.1 hs).2.2 t h

/-- Declared shapes with the same serial number are the same declaration. -/
theorem Declared.eq_of_serial_eq {s t : Shape} (hs : s.Declared decl) (ht : t.Declared decl)
    (h : s.serial = t.serial) : s = t := by
  rw [← (hs s .refl).1, h, (ht t .refl).1]

theorem Declared.conforms_refl {s : Shape} (hs : s.Declared decl) : s.conforms s = true :=
  Shape.conforms_refl (hs s .refl).2

end Shape

/-! ## A gap parts the source from the target -/

theorem Shape.Declared.isAssignable_iff {decl : Nat → Shape} {s t : Shape} (ht : t.Declared decl) :
    (ValueType.shape s).isAssignable (.shape t) = true ↔ s.conforms t = true := by
  rw [ValueType.isAssignable_shape_shape, Bool.or_eq_true]
  exact ⟨fun h => h.elim (Shape.conforms_of_same (ht t .refl).2) id, .inr⟩

/-- No gap can be spared: a source does not conform to a target across one. -/
theorem Shape.Gap.not_conforms {decl : Nat → Shape} {r s t : Shape} (h : r.Gap s t)
    (ht : t.Declared decl) : ¬ r.conforms t = true := by
  induction h with
  | misfit hm _ _ hsource hmisfit =>
    intro hconforms
    have hfits := Member.isProvidedBy_of_isProvided (Shape.conforms_iff.1 hconforms _ hm) hsource
    rw [hmisfit] at hfits
    cases hfits
  | lack hm hneeded _ _ hsource =>
    intro hconforms
    have hoptional := Member.optional_of_isProvided (Shape.conforms_iff.1 hconforms _ hm) hsource
    rw [hneeded] at hoptional
    cases hoptional
  | nested hm _ hsource htarget _ hr _ ih =>
    intro hconforms
    have hfits := Member.isProvidedBy_of_isProvided (Shape.conforms_iff.1 hconforms _ hm) hsource
    rw [htarget, hr] at hfits
    have hnested := ht.of_nests ⟨_, hm, false, htarget⟩
    exact ih hnested (hnested.isAssignable_iff.1 hfits)

theorem ValueType.Gap.not_isAssignable {decl : Nat → Shape} {a b c : ValueType} (h : a.Gap b c)
    (hc : c.Declared decl) : ¬ a.isAssignable c = true := by
  obtain ⟨r, s, t, rfl, rfl, rfl, hgap⟩ := h
  rw [(hc t rfl).isAssignable_iff]
  exact hgap.not_conforms (hc t rfl)

/-! ## Questions in a session -/

theorem ValueType.isAssignableIn_eq {sub sup : ValueType} {ctx : ConformanceContext}
    (h : ∀ s t, sub = .shape s → sup = .shape t → s.conformsIn t ctx = (s.conforms t, ctx)) :
    sub.isAssignableIn sup ctx = (sub.isAssignable sup, ctx) := by
  unfold ValueType.isAssignableIn ValueType.isAssignable
  cases hsame : sub.same sup with
  | true => rfl
  | false =>
    rw [if_neg Bool.false_ne_true, Bool.false_or]
    cases sup with
    | shape t =>
      cases sub with
      | shape s => exact h s t rfl rfl
      | _ => rfl
    | _ => rfl

theorem MemberKind.isProvidedByIn_eq {wanted found : MemberKind} {ctx : ConformanceContext}
    (h : ∀ s t v w, found = .property (.shape s) v → wanted = .property (.shape t) w →
      s.conformsIn t ctx = (s.conforms t, ctx)) :
    wanted.isProvidedByIn found ctx = (wanted.isProvidedBy found, ctx) := by
  unfold MemberKind.isProvidedByIn MemberKind.isProvidedBy
  cases wanted with
  | method t => cases found <;> rfl
  | property t w =>
    cases found with
    | method f => cases w <;> rfl
    | property f v =>
      cases w with
      | true => rfl
      | false =>
        refine ValueType.isAssignableIn_eq ?_
        rintro s t rfl rfl
        exact h s t _ _ rfl rfl

theorem Member.isProvidedIn_eq {m : Member} {source : Shape} {ctx : ConformanceContext}
    (h : ∀ s t w, source.Nests s → m.kind = .property (.shape t) w →
      s.conformsIn t ctx = (s.conforms t, ctx)) :
    m.isProvidedIn source ctx = (m.isProvided source, ctx) := by
  obtain ⟨name, kind, optional⟩ := m
  unfold Member.isProvidedIn Member.isProvided
  cases hfound : source.member? name with
  | none => rfl
  | some found =>
    refine MemberKind.isProvidedByIn_eq fun s t v w hs ht => ?_
    exact h s t w ⟨found, (Shape.mem_of_member? hfound).1, v, hs⟩ ht

theorem allProvidedIn_eq {members : List Member} {source : Shape} {ctx : ConformanceContext}
    (h : ∀ m ∈ members, m.isProvidedIn source ctx = (m.isProvided source, ctx)) :
    allProvidedIn members source ctx = (allProvided members source, ctx) := by
  induction members with
  | nil => rfl
  | cons m rest ih =>
    have hrest := ih fun other hother => h other (List.mem_cons_of_mem _ hother)
    rw [allProvidedIn, allProvided, h m List.mem_cons_self]
    cases m.isProvided source with
    | true => exact hrest
    | false => rfl

/-- A pair of declared shapes is compared in a session as it is without one, as long as the session
is not amid a comparison with a shape that occurs in the target. -/
theorem Shape.conformsIn_eq {decl : Nat → Shape} {source target : Shape}
    {ctx : ConformanceContext} (hs : source.Declared decl) (ht : target.Declared decl)
    (hctx : ∀ pair ∈ ctx.assumed, ¬ target.Occurs (decl pair.2)) :
    source.conformsIn target ctx = (source.conforms target, ctx) := by
  induction target using Shape.nested_induction generalizing source ctx with
  | h target ih =>
    obtain ⟨serial, name, members⟩ := target
    have hself : decl serial = ⟨serial, name, members⟩ := (ht _ .refl).1
    unfold Shape.conformsIn Shape.acceptsShapeIn
    split
    · rename_i hserial
      rw [hs.eq_of_serial_eq ht hserial, ht.conforms_refl]
    · have hnot : (source.serial, serial) ∉ ctx.assumed := fun hmem =>
        hctx _ hmem (by rw [hself]; exact .refl)
      rw [if_neg hnot]
      have hall : allProvidedIn members source (ctx.assume (source.serial, serial)) =
          (allProvided members source, ctx.assume (source.serial, serial)) := by
        refine allProvidedIn_eq fun m hm => Member.isProvidedIn_eq fun s t w hsource hkind => ?_
        have hnests : (⟨serial, name, members⟩ : Shape).Nests t := ⟨m, hm, w, hkind⟩
        refine ih t hnests (hs.of_nests hsource) (ht.of_nests hnests) fun pair hpair hoccurs => ?_
        rcases List.mem_cons.1 hpair with rfl | hpair
        · -- the target itself does not occur in a shape that it nests
          have hle := sizeOf_le_of_occurs hoccurs
          have hlt := sizeOf_lt_of_nests hnests
          rw [hself] at hle
          omega
        · exact hctx pair hpair (.head hnests hoccurs)
      simp only [hall, ConformanceContext.release_assume]
      rfl

/-- Between questions, when no pair is being compared, the answers are the plain ones. -/
theorem Shape.conformsIn_of_idle {decl : Nat → Shape} {s t : Shape} {ctx : ConformanceContext}
    (hctx : ctx.assumed = []) (hs : s.Declared decl) (ht : t.Declared decl) :
    s.conformsIn t ctx = (s.conforms t, ctx) :=
  Shape.conformsIn_eq hs ht (by simp [hctx])

theorem ValueType.isAssignableIn_of_idle {decl : Nat → Shape} {a b : ValueType}
    {ctx : ConformanceContext} (hctx : ctx.assumed = []) (ha : a.Declared decl)
    (hb : b.Declared decl) : a.isAssignableIn b ctx = (a.isAssignable b, ctx) :=
  ValueType.isAssignableIn_eq fun s t hs ht =>
    Shape.conformsIn_of_idle hctx (ha s hs) (hb t ht)

/-- Three descriptions of an address, each shorter than the one before, and under the next three
numbers of people who live at such an address. -/
def addressBook : Nat → Shape
  | 0 => ⟨0, "Full", [⟨"Street", .property .text false, false⟩,
      ⟨"Number", .property .integer false, false⟩, ⟨"PostCode", .property .text false, false⟩]⟩
  | 1 => ⟨1, "Usual", [⟨"Number", .property .integer false, false⟩,
      ⟨"Street", .property .text false, false⟩]⟩
  | 2 => ⟨2, "Short", [⟨"Street", .property .any false, false⟩]⟩
  | n + 3 => ⟨n + 3, "Person", [⟨"Address", .property (.shape (addressBook n)) false, false⟩]⟩

theorem not_nests_addressBook {n : Nat} (hn : n < 3) (t : Shape) : ¬ (addressBook n).Nests t := by
  match n, hn with
  | 0, _ | 1, _ | 2, _ => simp [Shape.Nests, addressBook]

theorem addressBook_declared_needsAll :
    ∀ n, (addressBook n).Declared addressBook ∧ (addressBook n).NeedsAll
  | 0 | 1 | 2 => by
    refine ⟨Shape.declared_iff.2 ⟨rfl, by decide, fun t ht => ?_⟩,
      Shape.needsAll_iff.2 ⟨by decide, fun t ht => ?_⟩⟩ <;>
    exact (not_nests_addressBook (by decide) t ht).elim
  | n + 3 => by
    obtain ⟨hdeclared, hneeds⟩ := addressBook_declared_needsAll n
    have hnests : ∀ t, (addressBook (n + 3)).Nests t → t = addressBook n := by
      simp [Shape.Nests, addressBook, eq_comm]
    refine ⟨Shape.declared_iff.2 ⟨rfl, List.nodup_singleton _, fun t ht => ?_⟩,
      Shape.needsAll_iff.2 ⟨?_, fun t ht => ?_⟩⟩
    · rw [hnests t ht]
      exact hdeclared
    · simp [addressBook]
    · rw [hnests t ht]
      exact hneeds

/-! ## Sessions -/

/-- A question about conformance. -/
inductive ConformanceQuestion where
  | isAssignable (sub sup : ValueType)
  | conforms (source target : Shape)

namespace ConformanceQuestion

/-- The plain answer, which comes from the members of the target alone. -/
def answer : ConformanceQuestion → Bool
  | .isAssignable sub sup => sub.isAssignable sup
  | .conforms source target => source.conforms target

/-- The answer in a session, and the context afterwards. -/
def answerIn (ctx : ConformanceContext) : ConformanceQuestion → Bool × ConformanceContext
  | .isAssignable sub sup => sub.isAssignableIn sup ctx
  | .conforms source target => source.conformsIn target ctx

/-- The shapes that are asked about are declared. -/
def Declared (decl : Nat → Shape) : ConformanceQuestion → Prop
  | .isAssignable sub sup => sub.Declared decl ∧ sup.Declared decl
  | .conforms source target => source.Declared decl ∧ target.Declared decl

/-- Between questions a question is answered plainly, and leaves the context as it is. -/
theorem answerIn_of_idle {decl : Nat → Shape} {ctx : ConformanceContext} (hctx : ctx.assumed = [])
    {q : ConformanceQuestion} (hq : q.Declared decl) : q.answerIn ctx = (q.answer, ctx) := by
  cases q with
  | isAssignable sub sup => exact ValueType.isAssignableIn_of_idle hctx hq.1 hq.2
  | conforms source target => exact Shape.conformsIn_of_idle hctx hq.1 hq.2

end ConformanceQuestion

/-- The answers to questions that are put one after the other, each with the context that it leaves
to the next. -/
def ConformanceContext.answers (ctx : ConformanceContext) :
    List ConformanceQuestion → List (Bool × ConformanceContext)
  | [] => []
  | q :: rest => q.answerIn ctx :: (q.answerIn ctx).2.answers rest

/-- **A session answers plainly.** Each of its answers is the one that the members of the target
give without a table and without the short cut for a shape and itself. Every context on the way is
the one it began with: no pair stays in the table, and none is ever taken for granted. The serial
numbers have to tell the shapes of one question apart; the next question may use them for others. -/
theorem session_answers_plainly {ctx : ConformanceContext} (hctx : ctx.assumed = [])
    {questions : List ConformanceQuestion} (h : ∀ q ∈ questions, ∃ decl, q.Declared decl) :
    ctx.answers questions = questions.map fun q => (q.answer, ctx) := by
  induction questions with
  | nil => rfl
  | cons q rest ih =>
    obtain ⟨decl, hq⟩ := h q List.mem_cons_self
    have hrest := ih fun other hother => h other (List.mem_cons_of_mem _ hother)
    rw [ConformanceContext.answers, ConformanceQuestion.answerIn_of_idle hctx hq, hrest,
      List.map_cons]

/-- People at the usual address do not conform to those at the full one, nor does the usual address
itself, before and after the opposite was compared: what was assumed for one question does not serve
the next. -/
theorem session_answers_plainly_repeated :
    let idle : ConformanceContext := {}
    let usual : ConformanceQuestion := .conforms (addressBook 4) (addressBook 3)
    let full : ConformanceQuestion := .conforms (addressBook 3) (addressBook 4)
    let address : ConformanceQuestion :=
      .isAssignable (.shape (addressBook 1)) (.shape (addressBook 0))
    let questions := [usual, address, full, usual, address]
    idle.assumed = [] ∧ (∀ q ∈ questions, ∃ decl, q.Declared decl) ∧
      idle.answers questions =
        [(false, idle), (false, idle), (true, idle), (false, idle), (false, idle)] := by
  intro idle usual full address questions
  have hbook : ∀ n, (addressBook n).Declared addressBook := fun n =>
    (addressBook_declared_needsAll n).1
  have hquestions : ∀ q ∈ questions, ∃ decl, q.Declared decl := by
    have hshape : ∀ n, (ValueType.shape (addressBook n)).Declared addressBook := by
      rintro n s ⟨⟩
      exact hbook n
    simp only [questions, List.mem_cons, List.not_mem_nil, or_false]
    rintro q (rfl | rfl | rfl | rfl | rfl)
    · exact ⟨addressBook, hbook 4, hbook 3⟩
    · exact ⟨addressBook, hshape 1, hshape 0⟩
    · exact ⟨addressBook, hbook 3, hbook 4⟩
    · exact ⟨addressBook, hbook 4, hbook 3⟩
    · exact ⟨addressBook, hshape 1, hshape 0⟩
  refine ⟨rfl, hquestions, ?_⟩
  rw [session_answers_plainly rfl hquestions]
  decide +kernel

/-- **Conformance is reflexive, and carries over a middle exactly if that leaves no gap.** So a
session answers that is between questions, for all types and all shapes that are declared in one
place. -/
theorem session_answers_are_ordered {decl : Nat → Shape} {ctx : ConformanceContext}
    (hctx : ctx.assumed = []) :
    (∀ a : ValueType, a.isAssignableIn a ctx = (true, ctx)) ∧
    (∀ s : Shape, s.conformsIn s ctx = (true, ctx)) ∧
    (∀ a b c : ValueType, a.Declared decl → b.Declared decl → c.Declared decl →
      (a.isAssignableIn b ctx).1 = true → (b.isAssignableIn c ctx).1 = true →
      ((a.isAssignableIn c ctx).1 = true ↔ ¬ a.Gap b c)) ∧
    ∀ r s t : Shape, r.Declared decl → s.Declared decl → t.Declared decl →
      (r.conformsIn s ctx).1 = true → (s.conformsIn t ctx).1 = true →
      ((r.conformsIn t ctx).1 = true ↔ ¬ r.Gap s t) := by
  refine ⟨fun a => ?_, fun s => ?_, fun a b c ha hb hc hab hbc => ?_,
    fun r s t hr hs ht hrs hst => ?_⟩
  · unfold ValueType.isAssignableIn
    rw [ValueType.same_refl, if_pos rfl]
  · obtain ⟨serial, name, members⟩ := s
    unfold Shape.conformsIn Shape.acceptsShapeIn
    rw [if_pos rfl]
  · rw [ValueType.isAssignableIn_of_idle hctx ha hb] at hab
    rw [ValueType.isAssignableIn_of_idle hctx hb hc] at hbc
    rw [ValueType.isAssignableIn_of_idle hctx ha hc]
    exact ⟨fun hac hgap => hgap.not_isAssignable hc hac, ValueType.isAssignable_trans hab hbc⟩
  · rw [Shape.conformsIn_of_idle hctx hr hs] at hrs
    rw [Shape.conformsIn_of_idle hctx hs ht] at hst
    rw [Shape.conformsIn_of_idle hctx hr ht]
    exact ⟨fun hrt hgap => hgap.not_conforms ht hrt, Shape.conforms_trans hrs hst⟩

/-- Conformance carries over from the people at the fullest address to those at the shortest. -/
theorem session_answers_are_ordered_nested :
    let idle : ConformanceContext := {}
    let r := addressBook 3
    let s := addressBook 4
    let t := addressBook 5
    idle.assumed = [] ∧ r.Declared addressBook ∧ s.Declared addressBook ∧
      t.Declared addressBook ∧ (r.conformsIn s idle).1 = true ∧
      (s.conformsIn t idle).1 = true ∧ ¬ r.Gap s t ∧ (r.conformsIn t idle).1 = true := by
  intro idle r s t
  have hr := (addressBook_declared_needsAll 3).1
  have hs := addressBook_declared_needsAll 4
  have ht := addressBook_declared_needsAll 5
  have hgap : ¬ r.Gap s t := fun h => h.not_needsAll hs.2 ht.2
  have hrs : (r.conformsIn s idle).1 = true := by decide +kernel
  have hst : (s.conformsIn t idle).1 = true := by decide +kernel
  exact ⟨rfl, hr, hs.1, ht.1, hrs, hst, hgap,
    ((session_answers_are_ordered rfl).2.2.2 r s t hr hs.1 ht.1 hrs hst).2 hgap⟩

/-- What has a number under a name conforms to what has nothing, and that to what may have a text
under it, but the first does not conform to the last. Nor does what has nothing conform to what
needs the text, though what may have it is between them. -/
theorem session_answers_not_transitive :
    let number : Shape := ⟨0, "Number", [⟨"Nick", .property .integer false, false⟩]⟩
    let nothing : Shape := ⟨1, "Nothing", []⟩
    let optional : Shape := ⟨2, "Optional", [⟨"Nick", .property .text false, true⟩]⟩
    let needed : Shape := ⟨3, "Needed", [⟨"Nick", .property .text false, false⟩]⟩
    let conforms (s t : Shape) : Bool := (s.conformsIn t {}).1
    let assignable (s t : Shape) : Bool := ((ValueType.shape s).isAssignableIn (.shape t) {}).1
    (conforms number nothing ∧ conforms nothing optional ∧ ¬ conforms number optional) ∧
      (conforms nothing optional ∧ conforms optional needed ∧ ¬ conforms nothing needed) ∧
      (assignable number nothing ∧ assignable nothing optional ∧ ¬ assignable number optional) ∧
      assignable nothing optional ∧ assignable optional needed ∧ ¬ assignable nothing needed := by
  decide +kernel

end DuckTyping
