import DuckTyping.Proofs.AdapterWrites
import DuckTyping.Proofs.HonouredPlans
import DuckTyping.Proofs.TypedReads
import DuckTyping.Proofs.ViewWrites
import DuckTyping.Proofs.WrittenScalars

set_option autoImplicit false

/-!
# What is written is read back

A write through an adapter brings the value to the declared type, then to the type that is stored,
and puts it under a key; a read takes the same way back. Over a dictionary the value is found again:
the adapter ignores case or compares keys as the dictionary does, so the dictionary takes no key for
another one that the adapter tells apart from it. And the value is the same again: what was brought
to a type stays as it is when it is brought there once more, and the texts that are stored for
integers, booleans and UUIDs read as what was written.
-/

namespace DuckTyping

/-! ## Conversions -/

namespace Registry

theorem find?_map_eq_none (kind : TypeKind) : Registry.default.find? kind .map = none := by
  cases kind <;> rfl

theorem map?_of_convert {v w : Value} {t : ValueType} (hv : v.map? = none)
    (h : Registry.default.convert v t = .ok w) : w.map? = none := by
  by_cases hkeeps : v.isNull = true ∨ v.conformsTo t = true
  · rw [convert_of_keeps hkeeps] at h
    cases h
    exact hv
  · cases hcan : Registry.default.canConvert v.valueType t with
    | false =>
      rw [convert_of_canConvert_eq_false hkeeps hcan] at h
      cases h
    | true =>
      rcases isSound_default.convert_of_canConvert hkeeps hcan with ⟨w', hw', htype⟩ | ⟨_, _, hw'⟩
      · rw [hw'] at h
        cases h
        cases w with
        | map m =>
          rw [← htype, canConvert] at hcan
          change (Registry.default.find? v.valueType.kind .map).isSome = true at hcan
          rw [find?_map_eq_none] at hcan
          cases hcan
        | _ => rfl
      · rw [hw'] at h
        cases h

end Registry

namespace Value

theorem isReadBack_of_valueType {v : Value}
    (h : v.valueType = .integer ∨ v.valueType = .boolean ∨ v.valueType = .uuid) :
    v.IsReadBack := by
  cases v with
  | int n => exact isReadBack_int n
  | bool b => exact isReadBack_bool b
  | uuid u => exact isReadBack_uuid u
  | _ => rcases h with h | h | h <;> cases h

/-- What fits the type of integers, of booleans or of UUIDs comes back from its text. -/
theorem convert_of_convert_text {v stored : Value} {t : ValueType}
    (ht : t = .integer ∨ t = .boolean ∨ t = .uuid) (hfits : v.conformsTo t = true)
    (h : Registry.default.convert v .text = .ok stored) :
    Registry.default.convert stored t = .ok v := by
  cases hnull : v.isNull with
  | true =>
    rw [Registry.convert_of_keeps (.inl hnull)] at h
    cases h
    exact Registry.convert_of_keeps (.inl hnull)
  | false =>
    have htype : v.valueType = t := by
      rcases ht with rfl | rfl | rfl <;>
        exact ValueType.eq_of_kind_eq (kind_eq_of_conformsTo hfits hnull (by decide) (by decide))
          (by decide) (by decide) (by decide)
    obtain ⟨s, hs, hback⟩ := isReadBack_of_valueType (htype ▸ ht)
    rw [hs] at h
    cases h
    rw [← htype]
    simpa using hback "" "" (fun _ => nofun) (fun _ => nofun)

end Value

/-! ## Adapters of dictionaries -/

/-- How inspection compares the keys of a dictionary. -/
def Inspector.comparisonFor (i : Inspector) (d : Dictionary) : KeyComparison :=
  if i.options.fuzzy then .ignoreCase else d.comparison

/-- No key is taken for another one by a dictionary that inspection tells apart from it. -/
theorem Inspector.not_conflates (i : Inspector) (d : Dictionary) (key : String) :
    ¬ d.Conflates (i.comparisonFor d) key := by
  rintro ⟨hordinal, hignores, -⟩
  rw [comparisonFor, hignores] at hordinal
  split at hordinal <;> cases hordinal

namespace Adapter

variable {i : Inspector} {a : Adapter} {σ later after : Store} {address : Nat} {d d' : Dictionary}
  {name member : String} {v typed : Value} {t : ValueType} {shape : Shape} {e : PlanEntry}

/-- The source of the adapter is the dictionary at an address, and the adapter compares keys as
inspection does. -/
structure LooksInto (a : Adapter) (σ : Store) (address : Nat) (d : Dictionary) : Prop where
  source : a.source = .map (.cell address)
  held : σ.mappings[address]? = some (.dictionary d)
  comparison : .ofCaseSensitive a.plan.caseSensitive = a.inspector.comparisonFor d

theorem looksInto_inspected (hd : σ.mappings[address]? = some (.dictionary d)) :
    (inspected i σ shape (.map (.cell address))).LooksInto σ address d where
  source := rfl
  held := hd
  comparison := by
    have hview := congrArg View.comparison (i.wrap_caseSensitive_inspect σ shape (.cell address))
    have hcomparison : σ.comparison? (.cell address) = some d.comparison := by
      rw [Store.comparison?, Store.mapping_of_getElem? hd]
      rfl
    refine hview.trans ?_
    change (i.view σ (.cell address)).comparison = i.comparisonFor d
    rw [Inspector.view, Inspector.comparisonFor, Store.wrap, Store.isCaseSensitive, hcomparison]
    cases i.options.fuzzy with
    | true => rfl
    | false => exact KeyComparison.ofCaseSensitive_isCaseSensitive d.comparison

theorem LooksInto.after_change (h : a.LooksInto σ address d)
    (hd : later.mappings[address]? = some (.dictionary d'))
    (hcomparison : d'.comparison = d.comparison) : a.LooksInto later address d' where
  source := h.source
  held := hd
  comparison := by rw [h.comparison, Inspector.comparisonFor, Inspector.comparisonFor, hcomparison]

theorem eq_inspected_of_tryAdapt {t : Typer} {ref : MapRef}
    (h : (t.tryAdapt σ shape (.map ref)).1 = .ok a) :
    a = inspected t.inspector σ shape (.map ref) ∧
      (t.inspector.inspect σ shape (.map ref)).isSatisfiable = true := by
  rw [tryAdapt_eq_build] at h
  obtain ⟨hsatisfiable, ha⟩ := build_eq_ok_iff.1 h
  exact ⟨ha, hsatisfiable⟩

/-- What is delivered to a dictionary is fetched from it. -/
theorem LooksInto.exists_fetch_of_deliver (h : a.LooksInto σ address d)
    (hdeliver : a.deliver σ name member v = .ok after) :
    ∃ d', a.LooksInto after address d' ∧
      a.fetch after member = .ok (σ.rewrap (a.inspector.comparisonFor d) v) := by
  have hd := Store.mapping_of_getElem? h.held
  obtain ⟨hlt, -⟩ := Array.getElem?_eq_some_iff.1 h.held
  have hview : a.view (.cell address) = ⟨.cell address, a.inspector.comparisonFor d⟩ := by
    rw [view, h.comparison]
  rw [deliver, h.source] at hdeliver
  simp only [hview] at hdeliver
  split at hdeliver
  · cases hdeliver
  · rename_i hwritable
    have hreadOnly : d.readOnly = false := by
      rw [Store.isReadOnly, hd] at hwritable
      exact Bool.eq_false_iff.2 hwritable
    have hinsert := eq_ok_of_outcome hdeliver
    rw [Store.insert_view hd hreadOnly] at hinsert
    cases hinsert
    let stored := (d.resolveKey? (a.inspector.comparisonFor d) member).getD member
    refine ⟨d.put stored v, h.after_change ?_ (Dictionary.comparison_put d stored v), ?_⟩
    · exact Array.getElem?_setIfInBounds_self_of_lt hlt
    · have hput := Dictionary.rewrites_put (a.inspector.not_conflates d member) v
      rw [fetch, h.source]
      simp only [hview]
      rw [Store.lookUp?_setMapping_put hlt hd, hput.written]
      rfl

theorem LooksInto.fetch_of_deliver (h : a.LooksInto σ address d) (hv : v.map? = none)
    (hdeliver : a.deliver σ name member v = .ok after) : a.fetch after member = .ok v := by
  obtain ⟨_, -, hfetch⟩ := h.exists_fetch_of_deliver hdeliver
  rwa [Store.rewrap_of_map?_eq_none hv] at hfetch

theorem LooksInto.read_of_place_direct (h : a.LooksInto later address d)
    (hsatisfiable : a.plan.isSatisfiable = true) (he : a.plan.entryFor? name = some e)
    (hproperty : e.member.isProperty = true) {key : String} (hr : e.resolution = .direct key)
    (hmap : typed.map? = none) (hfits : typed.conformsTo e.member.valueType = true)
    (hplace : a.place later name e.capability typed = .ok after) :
    a.read after name = .ok typed := by
  rw [place_of_direct hr] at hplace
  have hfetch := h.fetch_of_deliver hmap hplace
  rw [read_of_direct hsatisfiable he hproperty after hr, hfetch]
  exact coerce_of_keeps (Bool.or_eq_true_iff.2 (.inr hfits))

/-- Placed as a text, an integer, a boolean or a UUID is read from it. -/
theorem LooksInto.read_of_place_text (h : a.LooksInto later address d)
    (hregistry : a.inspector.registry = Registry.default)
    (hsatisfiable : a.plan.isSatisfiable = true) (he : a.plan.entryFor? name = some e)
    (hproperty : e.member.isProperty = true) {key : String}
    (ht : t = .integer ∨ t = .boolean ∨ t = .uuid) (htype : e.member.valueType = t)
    (hr : e.resolution = .convertible key .text t)
    (hmap : typed.map? = none) (hfits : typed.conformsTo t = true)
    (hplace : a.place later name e.capability typed = .ok after) :
    a.read after name = .ok typed := by
  rw [place_of_convertible hr] at hplace
  obtain ⟨stored, hstored, hdeliver⟩ := exists_of_bind_eq_ok hplace
  rw [convert_eq_ok_iff, hregistry] at hstored
  have hfetch := h.fetch_of_deliver (Registry.map?_of_convert hmap hstored) hdeliver
  rw [read_of_convertible hsatisfiable he hproperty after hr, hfetch, htype]
  refine convert_eq_ok_iff.2 ?_
  rw [hregistry]
  exact Value.convert_of_convert_text ht hfits hstored

/-- **What is written is read back.** With the default converters and any options, let an adapter be
obtained from a typer over a dictionary, and let the dictionary have changed since in any way that
leaves it its comparison of keys, as all its operations do. When a value other than a mapping is
written to a member that the plan resolves directly, or converts from a text to an integer, a
boolean or a UUID, and the write succeeds, the adapter then reads the value itself if it is null or
fits the declared type, and otherwise what it converts to. -/
theorem read_after_write {t : Typer} (hregistry : t.inspector.registry = Registry.default)
    (hd : σ.mappings[address]? = some (.dictionary d))
    (ha : (t.tryAdapt σ shape (.map (.cell address))).1 = .ok a)
    (hd' : later.mappings[address]? = some (.dictionary d'))
    (hcomparison : d'.comparison = d.comparison) {r : Resolution}
    (hresolution : a.plan.resolution? name = some r)
    (hr : (∃ key, r = .direct key) ∨ ∃ key declared, r = .convertible key .text declared ∧
      (declared = .integer ∨ declared = .boolean ∨ declared = .uuid))
    (hv : v.map? = none) (hwrite : a.write later name v = .ok after) :
    ∃ m w, shape.member? name = some m ∧ a.read after name = .ok w ∧
      ((v.isNull = true ∨ v.conformsTo m.valueType = true) → w = v) ∧
      (¬ (v.isNull = true ∨ v.conformsTo m.valueType = true) →
        Registry.default.convert v m.valueType = .ok w) := by
  obtain ⟨rfl, hsatisfiable⟩ := eq_inspected_of_tryAdapt ha
  have hlooks : (inspected t.inspector σ shape (.map (.cell address))).LooksInto later address d' :=
    (looksInto_inspected hd).after_change hd' hcomparison
  obtain ⟨m, hm, -, hresolved, he⟩ := exists_entryFor?_of_resolution? hresolution
  obtain ⟨hproperty, typed, hcoerce, hplace⟩ := exists_place_of_write hsatisfiable he hwrite
  have hconvert : Registry.default.convert v m.valueType = .ok typed :=
    hregistry ▸ convert_of_coerce hcoerce
  have hfits := Registry.isSound_default.conformsTo_of_convert hconvert
  have hmap := Registry.map?_of_convert hv hconvert
  have hread : (inspected t.inspector σ shape (.map (.cell address))).read after name =
      .ok typed := by
    rcases hr with ⟨key, rfl⟩ | ⟨key, declared, rfl, hdeclared⟩
    · exact hlooks.read_of_place_direct hsatisfiable he hproperty rfl hmap hfits hplace
    · have htype := Inspector.valueType_of_resolution hresolved
      exact hlooks.read_of_place_text hregistry hsatisfiable he hproperty hdeclared htype rfl hmap
        (htype ▸ hfits) hplace
  refine ⟨m, typed, hm, hread, fun hkeeps => ?_, fun _ => hconvert⟩
  rw [Registry.convert_of_keeps hkeeps] at hconvert
  exact (Except.ok.inj hconvert).symm

/-- A text with spaces is written to a number that is stored as a text, after the key of it was
spelled anew. -/
theorem read_after_write_respelled :
    let t : Typer := { inspector := ⟨Registry.default, { fuzzy := true }⟩ }
    let shape : Shape := ⟨0, "Account", [⟨"ID", .property .integer true, false⟩]⟩
    let d := Dictionary.ofEntries .ordinal [("id", .text "7")]
    let d' := Dictionary.ofEntries .ordinal [("Id", .text "seven")]
    let σ : Store := ⟨#[.dictionary d], #[], 0⟩
    let later : Store := ⟨#[.dictionary d'], #[], 0⟩
    let a := inspected t.inspector σ shape (.map (.cell 0))
    let v := Value.text " 42 "
    (t.tryAdapt σ shape (.map (.cell 0))).1 = .ok a ∧ d'.comparison = d.comparison ∧
      a.plan.resolution? "ID" = some (.convertible "id" .text .integer) ∧ v.map? = none ∧
      ∃ after, a.write later "ID" v = .ok after ∧
        ∃ m w, shape.member? "ID" = some m ∧ a.read after "ID" = .ok w ∧
          ((v.isNull = true ∨ v.conformsTo m.valueType = true) → w = v) ∧
          (¬ (v.isNull = true ∨ v.conformsTo m.valueType = true) →
            Registry.default.convert v m.valueType = .ok w) := by
  intro t shape d d' σ later a v
  have hsatisfiable : a.plan.isSatisfiable = true := by decide +kernel
  have ha : (t.tryAdapt σ shape (.map (.cell 0))).1 = .ok a :=
    build_eq_ok_iff.2 ⟨hsatisfiable, rfl⟩
  have hd : σ.mappings[0]? = some (.dictionary d) := rfl
  have hresolution : a.plan.resolution? "ID" = some (.convertible "id" .text .integer) := by
    let view := t.inspector.view σ (.cell 0)
    have hkey : view.resolveKey? σ "ID" = some "id" := by decide +kernel
    have hnew : (Dictionary.empty .ordinal).contains "id" = false := by decide +kernel
    have hput := Dictionary.rewrites_put_of_contains_eq_false (c := .ignoreCase) hnew (.text "7")
    have hfound : d.lookUp? .ignoreCase "id" = some (.text "7") := hput.written
    have hstored : view.lookUp? σ "id" = some (.text "7") := by
      refine (Store.lookUp?_cell (Store.mapping_of_getElem? hd) .ignoreCase "id").trans ?_
      rw [hfound]
      rfl
    let m : Member := ⟨"ID", .property .integer true, false⟩
    have he : a.plan.entryFor? "ID" = some ⟨m, t.inspector.resolution σ (.map (.cell 0)) m⟩ :=
      entryFor?_inspect rfl
    rw [Inspector.resolution_of_lookUp? hkey hstored] at he
    refine (congrArg (Option.map PlanEntry.resolution) he).trans ?_
    with_unfolding_all rfl
  have hd' : later.mappings[0]? = some (.dictionary d') := rfl
  have hcomparison : d'.comparison = d.comparison := by
    rw [Dictionary.comparison_ofEntries, Dictionary.comparison_ofEntries]
  have hok : (a.write later "ID" v).isOk = true := by decide +kernel
  refine ⟨ha, hcomparison, hresolution, rfl, ?_⟩
  cases hwrite : a.write later "ID" v with
  | error error =>
    rw [hwrite] at hok
    cases hok
  | ok after =>
    exact ⟨after, rfl, read_after_write rfl hd ha hd' hcomparison hresolution
      (.inr ⟨"id", .integer, rfl, .inl rfl⟩) rfl hwrite⟩

end Adapter

end DuckTyping
