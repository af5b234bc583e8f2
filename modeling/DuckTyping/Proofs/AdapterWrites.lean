import DuckTyping.Conversion.Builtin
import DuckTyping.Proofs.StepwiseWrites
import DuckTyping.Proofs.ViewStack

set_option autoImplicit false

/-!
# What a write through an adapter changes

A write through an adapter that succeeds changes one thing. Over a dictionary, however many views
lie in between, one entry has its value replaced or one entry is appended. Of a record object one
field changes, the one that the plan names. Everything else in the store is as it was.
-/

namespace DuckTyping

/-! ## One entry of a dictionary -/

/-- One entry of a dictionary is given a value: it stays in its place, under the key as it was
spelled, or it is appended under a key that the dictionary did not have. -/
structure Dictionary.WritesEntry (d : Dictionary) (v : Value) (after : Dictionary) : Prop where
  comparison : after.comparison = d.comparison
  readOnly : after.readOnly = d.readOnly
  entries :
    (∃ before key old later, d.entries.toList = before ++ (key, old) :: later ∧
      after.entries.toList = before ++ (key, v) :: later) ∨
    (∃ key, d.contains key = false ∧
      after.entries.toList = d.entries.toList ++ [(key, v)])

theorem Dictionary.writesEntry_put (d : Dictionary) (key : String) (v : Value) :
    d.WritesEntry v (d.put key v) where
  comparison := comparison_put d key v
  readOnly := readOnly_put d key v
  entries := by
    cases h : d.position? key with
    | some i =>
      obtain ⟨before, e, later, hsplit, rfl, _, _⟩ := exists_split h
      exact .inl ⟨before, e.1, e.2, later, hsplit, toList_put_of_position? hsplit h v⟩
    | none =>
      have habsent : d.contains key = false := by rw [contains, h, Option.isSome_none]
      exact .inr ⟨key, habsent, toList_put_of_position?_eq_none h v⟩

/-! ## One field of an object -/

/-- One field of an object is given a value; its other members stay, and all stay in place. -/
structure RecordObject.WritesField (r : RecordObject) (name : String) (v : Value)
    (after : RecordObject) : Prop where
  typeName : after.typeName = r.typeName
  serial : after.serial = r.serial
  members : ∃ before type old later,
    r.members = before ++ .field name type true old :: later ∧
      after.members = before ++ .field name type true v :: later

namespace RecordObject

variable {r after : RecordObject} {name : String} {v : Value}

theorem WritesField.mem_of_ne (h : r.WritesField name v after) {m : RecordMember}
    (hm : m ∈ r.members) (hother : ∀ type old, m ≠ .field name type true old) :
    m ∈ after.members := by
  obtain ⟨before, type, old, later, hbefore, hafter⟩ := h.members
  rw [hbefore, List.mem_append, List.mem_cons] at hm
  rw [hafter, List.mem_append, List.mem_cons]
  exact hm.imp_right fun hrest => .inr (hrest.resolve_left (hother type old))

theorem exists_split {m : RecordMember} (h : r.member? name = some m) :
    ∃ before later, r.members = before ++ m :: later ∧ m.name = name ∧
      ∀ other ∈ before ++ later, other.name ≠ name := by
  have hname : m.name = name := by
    have hfound := List.find?_some h
    exact beq_iff_eq.1 hfound
  obtain ⟨before, later, hsplit⟩ := List.append_of_mem (List.mem_of_find?_eq_some h)
  have hnodup := r.names_nodup
  rw [hsplit, List.map_append, List.map_cons, List.nodup_middle] at hnodup
  refine ⟨before, later, hsplit, hname, fun other hother heq => ?_⟩
  rw [← List.map_append] at hnodup
  apply hnodup.notMem
  rw [hname, ← heq]
  exact List.mem_map_of_mem hother

theorem writesField_of_set (h : r.set name v = .ok after) : r.WritesField name v after := by
  unfold set at h
  split at h
  · rename_i stored type writable old hfield
    split at h
    · rename_i hwritable
      split at h
      · cases h
        cases hwritable
        obtain ⟨before, later, hsplit, rfl, hothers⟩ := exists_split hfield
        have hkeep : ∀ ms : List RecordMember, (∀ m ∈ ms, m ∈ before ++ later) →
            ms.map (fun m => if m.name = stored then m.withValue v else m) = ms := by
          intro ms hms
          conv_rhs => rw [← List.map_id ms]
          exact List.map_congr_left fun m hm => if_neg (hothers m (hms m hm))
        refine ⟨rfl, rfl, before, type, old, later, hsplit, ?_⟩
        change r.members.map (fun m => if m.name = stored then m.withValue v else m) = _
        rw [hsplit, List.map_append, List.map_cons,
          hkeep before fun m hm => List.mem_append_left _ hm,
          hkeep later fun m hm => List.mem_append_right _ hm]
        simp [RecordMember.name, RecordMember.withValue]
      · cases h
    · cases h
  · cases h

end RecordObject

/-! ## One place of a store -/

namespace Store

variable {σ after : Store} {address : Nat} {m : MapRef} {d : Dictionary}

/-- The stores agree but for the mapping at an address. -/
structure AgreesOffMapping (σ after : Store) (address : Nat) : Prop where
  mappings : ∀ other, other ≠ address → after.mappings[other]? = σ.mappings[other]?
  objects : after.objects = σ.objects
  nextTag : after.nextTag = σ.nextTag

/-- The stores agree but for the object at an address. -/
structure AgreesOffObject (σ after : Store) (address : Nat) : Prop where
  mappings : after.mappings = σ.mappings
  objects : ∀ other, other ≠ address → after.objects[other]? = σ.objects[other]?
  nextTag : after.nextTag = σ.nextTag

theorem agreesOffMapping_setMapping (σ : Store) (address : Nat) (m : Mapping) :
    σ.AgreesOffMapping (σ.setMapping address m) address where
  mappings := by
    intro other hother
    rw [setMapping, Array.getElem?_setIfInBounds_ne hother.symm]
  objects := rfl
  nextTag := rfl

theorem agreesOffObject_setObject (σ : Store) (address : Nat) (o : HostObject) :
    σ.AgreesOffObject (σ.setObject address o) address where
  mappings := rfl
  objects := by
    intro other hother
    rw [setObject, Array.getElem?_setIfInBounds_ne hother.symm]
  nextTag := rfl

/-- Through any number of views an insertion comes down to one into the mapping behind them. -/
theorem exists_insert_of_shows {base : MapRef} (h : base.Shows m) (key : String) (v : Value) :
    ∃ stored, σ.insert m key v = σ.insert base stored v := by
  induction h generalizing key with
  | self => exact ⟨key, rfl⟩
  | @through inner tag c _ ih => exact ih ((σ.resolveKey? inner c key).getD key)

/-- Dictionaries fail before they change anything, behind views too. -/
theorem failsCleanly_of_shows (hd : σ.mapping address = .dictionary d)
    (h : (MapRef.cell address).Shows m) : σ.FailsCleanly m := by
  induction h with
  | self => exact failsCleanly_dictionary hd
  | through tag c _ ih => exact ih.through tag c

theorem writesEntry_of_insert (hd : σ.mappings[address]? = some (.dictionary d))
    (h : (MapRef.cell address).Shows m) {key : String} {v : Value}
    (hinsert : σ.insert m key v = .ok after) :
    σ.AgreesOffMapping after address ∧ ∃ d', after.mappings[address]? = some (.dictionary d') ∧
      d.WritesEntry v d' := by
  obtain ⟨stored, hstored⟩ := exists_insert_of_shows h key v
  rw [hstored, insert_dictionary (mapping_of_getElem? hd), Dictionary.insert_eq] at hinsert
  split at hinsert
  · cases hinsert
  · cases hinsert
    refine ⟨agreesOffMapping_setMapping σ address _, d.put stored v, ?_, d.writesEntry_put stored v⟩
    obtain ⟨hlt, -⟩ := Array.getElem?_eq_some_iff.1 hd
    exact Array.getElem?_setIfInBounds_self_of_lt hlt

theorem writesField_of_writeMember {o : ObjectRef} {r : RecordObject}
    (hr : σ.objects[o.address]? = some (.record r)) {name : String} {v : Value}
    (hwrite : σ.writeMember o name v = .ok after) :
    σ.AgreesOffObject after o.address ∧
      ∃ r', after.objects[o.address]? = some (.record r') ∧ r.WritesField name v r' := by
  rw [writeMember, object_of_getElem? hr] at hwrite
  simp only at hwrite
  cases hset : r.set name v with
  | error e =>
    rw [hset] at hwrite
    cases hwrite
  | ok r' =>
    rw [hset] at hwrite
    cases hwrite
    refine ⟨agreesOffObject_setObject σ o.address _, r', ?_, RecordObject.writesField_of_set hset⟩
    obtain ⟨hlt, -⟩ := Array.getElem?_eq_some_iff.1 hr
    exact Array.getElem?_setIfInBounds_self_of_lt hlt

end Store

/-- The source is there in the store: a dictionary, perhaps seen through views, or a record object.
-/
def Source.StandsIn (σ : Store) : Source → Prop
  | .map m => ∃ address d, σ.mappings[address]? = some (.dictionary d) ∧
      (MapRef.cell address).Shows m
  | .object o => ∃ r, σ.objects[o.address]? = some (.record r)

namespace Adapter

variable {i : Inspector} {a : Adapter} {σ after : Store} {name : String}

/-- A value of the declared type, brought to the type that the source stores. -/
def toStored (a : Adapter) (e : PlanEntry) (typed : Value) : Except AdaptError Value :=
  match e.resolution with
  | .convertible _ stored _ => a.convert typed stored
  | _ => .ok typed

/-- The value that is stored when one is written to the member of an entry: it is brought to the
declared type first. -/
def encode (a : Adapter) (e : PlanEntry) (v : Value) : Except AdaptError Value :=
  (a.coerce v e.member.valueType).bind (a.toStored e)

/-- The value is written in one place of the store: to one entry of the dictionary that is the
source, or to one field of the object that is, the one that the plan names. -/
inductive ChangesOne (a : Adapter) (σ : Store) (name : String) (v : Value) (after : Store) : Prop
  | entry {m : MapRef} {address : Nat} {d d' : Dictionary} (hsource : a.source = .map m)
      (hshows : (MapRef.cell address).Shows m)
      (hbefore : σ.mappings[address]? = some (.dictionary d))
      (hafter : after.mappings[address]? = some (.dictionary d'))
      (hwrites : d.WritesEntry v d') (hothers : σ.AgreesOffMapping after address)
  | field {o : ObjectRef} {member : String} {r r' : RecordObject} (hsource : a.source = .object o)
      (hmember : (a.plan.resolution? name).bind Resolution.source? = some member)
      (hbefore : σ.objects[o.address]? = some (.record r))
      (hafter : after.objects[o.address]? = some (.record r'))
      (hwrites : r.WritesField member v r') (hothers : σ.AgreesOffObject after o.address)

/-- To place a value of the declared type is to deliver it, in the stored type, to the key or member
that the plan names. Where it names none there is a mapping, which takes the name of the member as a
new key. -/
theorem exists_deliver_of_place {e : PlanEntry} (he : e.resolution.isUnresolved = false)
    {typed : Value} (hplace : a.place σ name e.capability typed = .ok after) :
    ∃ w, a.toStored e typed = .ok w ∧
      a.deliver σ name (e.resolution.source?.getD e.member.name) w = .ok after ∧
      (e.resolution.source? = none → ∃ m, a.source = .map m) := by
  obtain ⟨m, resolution⟩ := e
  cases resolution with
  | direct member => exact ⟨typed, rfl, hplace, nofun⟩
  | nested member => exact ⟨typed, rfl, hplace, nofun⟩
  | convertible member stored declared =>
    obtain ⟨w, hw, hdeliver⟩ := exists_of_bind_eq_ok hplace
    exact ⟨w, hw, hdeliver, nofun⟩
  | absent =>
    change (match a.source with
      | .map _ => a.deliver σ name m.name typed
      | .object o => .error (.notWritable name (.noSuchMember o.typeName))) = .ok after at hplace
    split at hplace
    · rename_i ref hsource
      exact ⟨typed, rfl, hplace, fun _ => ⟨ref, hsource⟩⟩
    · cases hplace
  | method member signature => cases hplace
  | unresolved reason => cases he

theorem exists_deliver_of_write (h : a.plan.isSatisfiable = true) {v : Value}
    (hwrite : a.write σ name v = .ok after) :
    ∃ e w member, a.plan.entryFor? name = some e ∧ a.encode e v = .ok w ∧
      a.deliver σ name member w = .ok after ∧
      (e.resolution.source? = some member ∨ ∃ m, a.source = .map m) := by
  rw [write_eq] at hwrite
  obtain ⟨c, hc, hwrite⟩ := exists_of_bind_eq_ok hwrite
  obtain ⟨e, he, rfl, -⟩ := exists_entryFor?_of_property h hc
  split at hwrite
  · obtain ⟨typed, htyped, hplace⟩ := exists_of_bind_eq_ok hwrite
    have hresolved := Plan.isUnresolved_of_mem h (Plan.mem_of_entryFor? he).1
    obtain ⟨w, hw, hdeliver, hmap⟩ := exists_deliver_of_place hresolved hplace
    refine ⟨e, w, _, he, ?_, hdeliver, ?_⟩
    · change a.coerce v e.member.valueType = .ok typed at htyped
      rw [encode, htyped]
      exact hw
    · cases hsource : e.resolution.source? with
      | none => exact .inr (hmap hsource)
      | some member => exact .inl rfl
  · cases hwrite

theorem eq_ok_of_outcome {result : Except HostError Store} (h : outcome name result = .ok after) :
    result = .ok after := by
  unfold outcome at h
  split at h <;> cases h
  rfl

/-- What is delivered to a source that is there is written in one place. -/
theorem changesOne_of_deliver (hsource : a.source.StandsIn σ) {member : String} {v : Value}
    (hdeliver : a.deliver σ name member v = .ok after)
    (hmember : (a.plan.resolution? name).bind Resolution.source? = some member ∨
      ∃ m, a.source = .map m) : a.ChangesOne σ name v after := by
  unfold deliver at hdeliver
  split at hdeliver
  · rename_i m hmap
    rw [hmap] at hsource
    obtain ⟨address, d, hd, hshows⟩ := hsource
    split at hdeliver
    · cases hdeliver
    · have hinsert := eq_ok_of_outcome hdeliver
      obtain ⟨hothers, d', hd', hwrites⟩ :=
        Store.writesEntry_of_insert hd (hshows.through none _) hinsert
      exact .entry hmap hshows hd hd' hwrites hothers
  · rename_i o hobject
    rw [hobject] at hsource
    obtain ⟨r, hr⟩ := hsource
    split at hdeliver
    · have hwrite := eq_ok_of_outcome hdeliver
      obtain ⟨hothers, r', hr', hwrites⟩ := Store.writesField_of_writeMember hr hwrite
      rcases hmember with hmember | ⟨m, hmap⟩
      · exact .field hobject hmember hr hr' hwrites hothers
      · rw [hobject] at hmap
        cases hmap
    · cases hdeliver

/-- **Writes are atomic and local.** However an adapter was obtained, in every store in which its
source is there: the steps of a write end as the write does. If it fails, they leave the very store
that they began with. If it succeeds, they leave one in which the encoded value stands in one entry
of the dictionary, or in one field of the object, and all else is as it was. -/
theorem write_is_atomic_and_local (ha : Obtained i a) (hsource : a.source.StandsIn σ)
    (name : String) (v : Value) :
    (∃ error, a.write σ name v = .error error ∧
      (a.writeSteps name v).perform σ = (.error error, σ)) ∨
    (∃ after e w, a.write σ name v = .ok after ∧
      (a.writeSteps name v).perform σ = (.ok (), after) ∧ a.plan.entryFor? name = some e ∧
      a.encode e v = .ok w ∧ a.ChangesOne σ name w after) := by
  have hclean : ∀ m, a.source = .map m → σ.FailsCleanly m := by
    intro m hm
    rw [hm] at hsource
    obtain ⟨address, d, hd, hshows⟩ := hsource
    exact Store.failsCleanly_of_shows (Store.mapping_of_getElem? hd) hshows
  have hsteps := perform_writeSteps name hclean v
  cases hwrite : a.write σ name v with
  | error error =>
    rw [hwrite] at hsteps
    exact .inl ⟨error, rfl, hsteps⟩
  | ok after =>
    rw [hwrite] at hsteps
    obtain ⟨e, w, member, he, hw, hdeliver, hmember⟩ :=
      exists_deliver_of_write ha.isPlanned.isSatisfiable hwrite
    have hchanges : a.ChangesOne σ name w after := by
      refine changesOne_of_deliver hsource hdeliver (hmember.imp_left fun h => ?_)
      rw [Plan.resolution?_eq_map_entryFor?, he]
      exact h
    exact .inr ⟨after, e, w, rfl, hsteps, he, hw, hchanges⟩

/-- A count is written as a text through a view, where a dictionary stores a number under another
spelling of the name. -/
theorem write_is_atomic_and_local_converted :
    let i : Inspector := ⟨Registry.default, {}⟩
    let shape : Shape := ⟨0, "Counter", [⟨"Count", .property .text true, false⟩]⟩
    let d := Dictionary.ofEntries .ordinal [("Name", .text "steps"), ("count", .int 41)]
    let σ : Store := ⟨#[.dictionary d], #[], 0⟩
    let source : Source := .map (.view none (.cell 0) .ignoreCase)
    let a : Adapter := ⟨i, shape, source, i.inspect σ shape source⟩
    Obtained i a ∧ a.source.StandsIn σ ∧
      ∃ after e w, a.write σ "Count" (.text "42") = .ok after ∧
        (a.writeSteps "Count" (.text "42")).perform σ = (.ok (), after) ∧
        a.plan.entryFor? "Count" = some e ∧ a.encode e (.text "42") = .ok w ∧
        a.ChangesOne σ "Count" w after := by
  intro i shape d σ source a
  have hplan : (i.inspect σ shape source).isSatisfiable = true := by decide +kernel
  have hobtained : Obtained i a := .adapted [] σ shape source (build_eq_ok_iff.2 ⟨hplan, rfl⟩)
  have hsource : a.source.StandsIn σ := ⟨0, d, rfl, .through none _ .self⟩
  have hok : (a.write σ "Count" (.text "42")).isOk = true := by decide +kernel
  refine ⟨hobtained, hsource, ?_⟩
  rcases write_is_atomic_and_local hobtained hsource "Count" (.text "42") with
    ⟨error, herror, -⟩ | hwritten
  · rw [herror] at hok
    cases hok
  · exact hwritten

end Adapter

end DuckTyping
