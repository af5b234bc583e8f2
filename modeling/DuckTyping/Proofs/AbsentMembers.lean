import DuckTyping.Proofs.ReadAfterWrite

set_option autoImplicit false

/-!
# Writing members that were absent

The plan of an adapter is made once. An optional member that the source lacked then is read as null
for good, while a write hands the value to the mapping, which takes it under the name of the member.
So the adapter does not read back what it wrote there. An adapter that is obtained afresh does: its
plan is made of the mapping as it is now, and finds the value under the name.
-/

namespace DuckTyping

namespace Adapter

variable {i : Inspector} {a b : Adapter} {σ later after : Store} {address : Nat}
  {d d' : Dictionary} {name : String} {v : Value} {shape : Shape} {m : Member} {e : PlanEntry}

theorem LooksInto.fetch_eq (ha : a.LooksInto σ address d) (hb : b.LooksInto σ address d)
    (hinspector : b.inspector = a.inspector) (key : String) : b.fetch σ key = a.fetch σ key := by
  rw [fetch, fetch, ha.source, hb.source]
  simp only [view, ha.comparison, hb.comparison, hinspector]

/-! ## Adapters obtained afresh -/

/-- A name under which a value is fetched is found by inspection, and the value is looked up under
the stored key as well. -/
theorem exists_looksUp_of_fetch (hd : σ.mappings[address]? = some (.dictionary d))
    (hfetch : (inspected i σ shape (.map (.cell address))).fetch σ name = .ok v) :
    ∃ key, (i.view σ (.cell address)).resolveKey? σ name = some key ∧
      (inspected i σ shape (.map (.cell address))).LooksUp σ (.cell address) name key v := by
  have hview := i.wrap_caseSensitive_inspect σ shape (.cell address)
  have hname : (i.view σ (.cell address)).lookUp? σ name = some v := by
    rw [← hview]
    simp only [fetch, inspected] at hfetch
    split at hfetch
    · rename_i w hw
      rw [← Except.ok.inj hfetch]
      exact hw
    · cases hfetch
  have hmapping := Store.mapping_of_getElem? hd
  let c := (i.view σ (.cell address)).comparison
  have hresolve : (i.view σ (.cell address)).resolveKey? σ name = d.resolveKey? c name :=
    Store.resolveKey?_of_shows hmapping .self c name
  cases hkey : d.resolveKey? c name with
  | none =>
    have hnone : (i.view σ (.cell address)).lookUp? σ name = none :=
      Store.lookUp?_eq_none hmapping .self hkey
    rw [hnone] at hname
    cases hname
  | some key =>
    have hsame : (i.view σ (.cell address)).lookUp? σ name =
        (i.view σ (.cell address)).lookUp? σ key :=
      Store.get?_eq_of_resolveKey? hmapping (.through none c .self) rfl hkey
    refine ⟨key, hresolve.trans hkey, ?_⟩
    rw [LooksUp]
    simp only [inspected]
    rw [hview]
    exact ⟨hname, hsame ▸ hname⟩

theorem resolves_of_lookUp? {ref : MapRef} {key : String}
    (hkey : (i.view σ ref).resolveKey? σ m.name = some key)
    (hstored : (i.view σ ref).lookUp? σ key = some v)
    (h : (i.resolution σ (.map ref) m).isUnresolved = false) :
    m.isProperty = true ∧ i.Resolves σ m.valueType key v (i.resolution σ (.map ref) m) := by
  obtain ⟨name, kind, optional⟩ := m
  rw [Inspector.resolution_of_lookUp? hkey hstored] at h ⊢
  cases kind with
  | method signature => cases h
  | property wanted writable => exact ⟨rfl, Inspector.resolves_of_resolveValue rfl h⟩

/-- What an adapter over a dictionary as it is now fetches under the name of a member, it reads
converted to the type of the member. -/
theorem read_inspected (hd : σ.mappings[address]? = some (.dictionary d))
    (hsatisfiable : (i.inspect σ shape (.map (.cell address))).isSatisfiable = true)
    (hm : shape.member? name = some m)
    (hfetch : (inspected i σ shape (.map (.cell address))).fetch σ name = .ok v) :
    (inspected i σ shape (.map (.cell address))).read σ name =
      (inspected i σ shape (.map (.cell address))).convert v m.valueType := by
  have he : (i.inspect σ shape (.map (.cell address))).entryFor? name =
      some ⟨m, i.resolution σ (.map (.cell address)) m⟩ := entryFor?_inspect hm
  obtain ⟨hmem, hname⟩ := Plan.mem_of_entryFor? he
  have hresolved := Plan.isUnresolved_of_mem hsatisfiable hmem
  obtain ⟨key, hkey, hlooks⟩ := exists_looksUp_of_fetch hd hfetch
  have hstored := hlooks.2
  simp only [inspected] at hname hstored
  rw [i.wrap_caseSensitive_inspect σ shape (.cell address)] at hstored
  rw [← hname] at hkey
  obtain ⟨hproperty, hresolves⟩ := resolves_of_lookUp? hkey hstored hresolved
  have hkept : (v.isNull || v.conformsTo m.valueType) = true →
      (inspected i σ shape (.map (.cell address))).convert v m.valueType = .ok v := fun hkeeps =>
    convert_eq_ok_iff.2 (Registry.convert_of_keeps (Bool.or_eq_true_iff.1 hkeeps))
  generalize hr : i.resolution σ (.map (.cell address)) m = r at hresolves
  cases hresolves with
  | direct hkeeps =>
    rw [read_of_direct hsatisfiable he hproperty σ hr, fetch_of_looksUp rfl hlooks, hkept hkeeps]
    exact coerce_of_keeps hkeeps
  | convertible hdiffers hallowed hcan =>
    rw [read_of_convertible hsatisfiable he hproperty σ hr, fetch_of_looksUp rfl hlooks]
    rfl
  | nested hwanted hsource hsatisfies =>
    have hfits : v.conformsTo m.valueType = true := by
      rw [hwanted]
      exact Value.conformsTo_shape_iff.2 (.inr ⟨_, hsource⟩)
    rw [read_of_nested hsatisfiable he hproperty σ hr, fetch_of_looksUp rfl hlooks,
      hkept (Bool.or_eq_true_iff.2 (.inr hfits))]

/-! ## The member that was absent -/

/-- **A write to a member that was absent is seen by adapters made since, not by its own.** Let an
adapter be obtained from a typer over a dictionary, and let the dictionary have changed since in any
way that leaves it its comparison of keys. When a value is written to an optional member that the
plan found absent, and the write succeeds, the value stands under the name of the member, brought to
the declared type. The adapter goes on reading null. An adapter that is obtained afresh over the
same dictionary reads what is there as the declared type; with the default converters, and a value
other than a mapping, it reads just what was stored. -/
theorem absent_member_is_read_afresh {t : Typer}
    (hd : σ.mappings[address]? = some (.dictionary d))
    (ha : (t.tryAdapt σ shape (.map (.cell address))).1 = .ok a)
    (hd' : later.mappings[address]? = some (.dictionary d'))
    (hcomparison : d'.comparison = d.comparison)
    (hresolution : a.plan.resolution? name = some .absent) (hv : v.map? = none)
    (hwrite : a.write later name v = .ok after) :
    ∃ m typed seen, shape.member? name = some m ∧ a.coerce v m.valueType = .ok typed ∧
      typed.SeenAs seen ∧ a.fetch after name = .ok seen ∧
      (∀ σ', a.read σ' name = .ok .null) ∧
      ∀ (t' : Typer) (b : Adapter), t'.inspector = t.inspector →
        (t'.tryAdapt after shape (.map (.cell address))).1 = .ok b →
        b.read after name = b.convert seen m.valueType ∧
          (t.inspector.registry = Registry.default → b.read after name = .ok typed) := by
  obtain ⟨rfl, hsatisfiable⟩ := eq_inspected_of_tryAdapt ha
  have hlooks : (inspected t.inspector σ shape (.map (.cell address))).LooksInto later address d' :=
    (looksInto_inspected hd).after_change hd' hcomparison
  obtain ⟨m, hm, rfl, hresolved, he⟩ := exists_entryFor?_of_resolution? hresolution
  obtain ⟨hproperty, typed, hcoerce, hplace⟩ := exists_place_of_write hsatisfiable he hwrite
  rw [place_of_absent rfl rfl] at hplace
  obtain ⟨d'', hafter, hfetch⟩ := hlooks.exists_fetch_of_deliver hplace
  refine ⟨m, typed, _, hm, hcoerce, Store.seenAs_rewrap (.same typed) later _, hfetch, ?_, ?_⟩
  · intro σ'
    exact read_of_absent hsatisfiable he hproperty σ' rfl
  · intro t' b hinspector hb
    obtain ⟨rfl, hsatisfiable'⟩ := eq_inspected_of_tryAdapt hb
    rw [hinspector] at hsatisfiable' ⊢
    let fresh := inspected t.inspector after shape (.map (.cell address))
    have hlooks' : fresh.LooksInto after address d'' := looksInto_inspected hafter.held
    rw [← hafter.fetch_eq hlooks' rfl] at hfetch
    have hread := read_inspected hafter.held hsatisfiable' hm hfetch
    refine ⟨hread, fun hregistry => ?_⟩
    have hconvert : Registry.default.convert v m.valueType = .ok typed :=
      hregistry ▸ convert_of_coerce hcoerce
    have hfits := Registry.isSound_default.conformsTo_of_convert hconvert
    rw [hread, Store.rewrap_of_map?_eq_none (Registry.map?_of_convert hv hconvert)]
    exact convert_eq_ok_iff.2 (Registry.convert_of_keeps (.inr hfits))

/-- A person has a number, and perhaps a nick name. -/
def personShape : Shape :=
  ⟨0, "Person", [⟨"Id", .property .integer false, false⟩, ⟨"Nick", .property .text true, true⟩]⟩

/-- A dictionary of a person, which distinguishes case. -/
def personStore (entries : List (String × Value)) : Store where
  mappings := #[.dictionary (.ofEntries .ordinal entries)]
  objects := #[]
  nextTag := 0

/-- A person over such a dictionary. -/
def person (entries : List (String × Value)) : Adapter :=
  inspected ⟨Registry.default, {}⟩ (personStore entries) personShape (.map (.cell 0))

theorem entryFor?_person_nick : (person [("Id", .int 1)]).plan.entryFor? "Nick" =
    some ⟨⟨"Nick", .property .text true, true⟩, .absent⟩ := by
  let i : Inspector := ⟨Registry.default, {}⟩
  let σ := personStore [("Id", .int 1)]
  have hkey : (i.view σ (.cell 0)).resolveKey? σ "Nick" = none := by decide +kernel
  have he : (i.inspect σ personShape (.map (.cell 0))).entryFor? "Nick" =
      some ⟨_, i.resolution σ (.map (.cell 0)) ⟨"Nick", .property .text true, true⟩⟩ :=
    entryFor?_inspect rfl
  rw [Inspector.resolution_of_resolveKey?_eq_none hkey] at he
  exact he

/-- A number is written as a nick name, after a name was added. -/
theorem absent_member_is_read_afresh_converted :
    let t : Typer := { inspector := ⟨Registry.default, {}⟩ }
    let σ := personStore [("Id", .int 1)]
    let later := personStore [("Id", .int 1), ("Name", .text "Ann")]
    let a := person [("Id", .int 1)]
    (t.tryAdapt σ personShape (.map (.cell 0))).1 = .ok a ∧
      a.plan.resolution? "Nick" = some .absent ∧ (Value.int 7).map? = none ∧
      ∃ after, a.write later "Nick" (.int 7) = .ok after ∧
        ∃ m typed seen, personShape.member? "Nick" = some m ∧
          a.coerce (.int 7) m.valueType = .ok typed ∧ typed.SeenAs seen ∧
          a.fetch after "Nick" = .ok seen ∧ (∀ σ', a.read σ' "Nick" = .ok .null) ∧
          ∀ (t' : Typer) (b : Adapter), t'.inspector = t.inspector →
            (t'.tryAdapt after personShape (.map (.cell 0))).1 = .ok b →
            b.read after "Nick" = b.convert seen m.valueType ∧
              (t.inspector.registry = Registry.default → b.read after "Nick" = .ok typed) := by
  intro t σ later a
  have hsatisfiable : a.plan.isSatisfiable = true := by decide +kernel
  have ha : (t.tryAdapt σ personShape (.map (.cell 0))).1 = .ok a :=
    build_eq_ok_iff.2 ⟨hsatisfiable, rfl⟩
  have hresolution : a.plan.resolution? "Nick" = some .absent :=
    congrArg (Option.map PlanEntry.resolution) entryFor?_person_nick
  let d := Dictionary.ofEntries .ordinal [("Id", .int 1)]
  let d' := Dictionary.ofEntries .ordinal [("Id", .int 1), ("Name", .text "Ann")]
  have hcomparison : d'.comparison = d.comparison := by
    rw [Dictionary.comparison_ofEntries, Dictionary.comparison_ofEntries]
  have hok : (a.write later "Nick" (.int 7)).isOk = true := by decide +kernel
  refine ⟨ha, hresolution, rfl, ?_⟩
  cases hwrite : a.write later "Nick" (.int 7) with
  | error error =>
    rw [hwrite] at hok
    cases hok
  | ok after =>
    exact ⟨after, rfl,
      absent_member_is_read_afresh rfl ha rfl hcomparison hresolution rfl hwrite⟩

/-- A nick name is written where there was none: the adapter reads null, and one that is obtained
afresh reads the name. -/
theorem written_absent_member_reads_null :
    let t : Typer := { inspector := ⟨Registry.default, {}⟩ }
    let σ := personStore [("Id", .int 1)]
    let after := personStore [("Id", .int 1), ("Nick", .text "Ann")]
    let a := person [("Id", .int 1)]
    let b := person [("Id", .int 1), ("Nick", .text "Ann")]
    (t.tryAdapt σ personShape (.map (.cell 0))).1 = .ok a ∧
      a.plan.resolution? "Nick" = some .absent ∧
      a.write σ "Nick" (.text "Ann") = .ok after ∧ a.read after "Nick" = .ok .null ∧
      (t.tryAdapt after personShape (.map (.cell 0))).1 = .ok b ∧
      b.read after "Nick" = .ok (.text "Ann") := by
  intro t σ after a b
  have hsatisfiable : a.plan.isSatisfiable = true := by decide +kernel
  have hsatisfiable' : b.plan.isSatisfiable = true := by decide +kernel
  have he : a.plan.entryFor? "Nick" = some ⟨⟨"Nick", .property .text true, true⟩, .absent⟩ :=
    entryFor?_person_nick
  let d := Dictionary.ofEntries .ordinal [("Id", .int 1)]
  have hlooks : a.LooksInto σ 0 d := looksInto_inspected rfl
  have hdeliver : a.deliver σ "Nick" "Nick" (.text "Ann") = .ok after := by
    have hkey : d.resolveKey? .ordinal "Nick" = none := by decide +kernel
    have hinsert : σ.insert (a.view (.cell 0)).ref "Nick" (.text "Ann") = .ok after := by
      refine (Store.insert_view rfl rfl .ordinal "Nick" (.text "Ann")).trans ?_
      rw [hkey]
      rfl
    rw [deliver]
    exact (if_neg (by decide)).trans (congrArg (outcome "Nick") hinsert)
  have hfits := Value.conformsTo_valueType (.text "Ann")
  have hwrite : a.write σ "Nick" (.text "Ann") = .ok after := by
    have hcoerce : a.coerce (.text "Ann") .text = .ok (.text "Ann") :=
      coerce_of_keeps (Bool.or_eq_true_iff.2 (.inr hfits))
    rw [write_eq_place hsatisfiable he rfl rfl hcoerce, place_of_absent rfl rfl]
    exact hdeliver
  have hread : b.read after "Nick" = .ok (.text "Ann") := by
    have hfetch : a.fetch after "Nick" = .ok (.text "Ann") := hlooks.fetch_of_deliver rfl hdeliver
    let d' := Dictionary.ofEntries .ordinal [("Id", .int 1), ("Nick", .text "Ann")]
    have hcomparison : d'.comparison = d.comparison := by
      rw [Dictionary.comparison_ofEntries, Dictionary.comparison_ofEntries]
    have hlooks' : a.LooksInto after 0 d' := hlooks.after_change rfl hcomparison
    have hlooksAfresh : b.LooksInto after 0 d' := looksInto_inspected rfl
    rw [← hlooks'.fetch_eq hlooksAfresh rfl] at hfetch
    refine (read_inspected rfl hsatisfiable' rfl hfetch).trans ?_
    exact convert_eq_ok_iff.2 (Registry.convert_of_keeps (.inr hfits))
  exact ⟨build_eq_ok_iff.2 ⟨hsatisfiable, rfl⟩, congrArg (Option.map PlanEntry.resolution) he,
    hwrite, read_of_absent hsatisfiable he rfl after rfl, build_eq_ok_iff.2 ⟨hsatisfiable', rfl⟩,
    hread⟩

end Adapter

end DuckTyping
