import EnergyGateway.Proofs.Inventory.Exact
import EnergyGateway.Proofs.Session.Addition
import EnergyGateway.Simulation.Line

/-!
# Room for another inverter

The overview counts the inverters that are live; the tier is checked against those of them that the configuration
manager lists.  The two counts differ by exactly the live inverters that are not listed (`count_usage`).  So an inverter
is only added while the count of the overview, less these, is below what the tier allows (`addInverter_room`).

A page that lists nothing makes the usage empty, however many inverters are live
(`not_forall_inverterCount_lt`).
-/

namespace EnergyGateway

namespace Installation

variable (i : Installation) (category : Category)

/-- The ids of the live components of a category that are not listed. -/
def unlisted : List String :=
  ((Status.inCategory i.components i.catalog category).filter fun e =>
    (Listing.last? i.listings i.catalog category e.1).isNone).map Prod.fst

/-- Every live component of a category is a device that can be changed, or is not listed. -/
theorem length_devices_add_unlisted :
    (i.devices category).length + (i.unlisted category).length =
      (Status.inCategory i.components i.catalog category).length := by
  unfold devices Inventory.join unlisted Status.inCategory
  rw [List.length_map, List.length_filterMap_eq_countP, ← List.countP_eq_length_filter,
    List.length_eq_countP_add_countP (fun e => (Listing.last? i.listings i.catalog category e.1).isSome)]
  simp [Listing.get?_index, -Option.isNone_iff_eq_none]

/-- The count that the tier is checked against, and the count of the overview. -/
theorem count_usage :
    i.usage.count + (i.unlisted .inverter).length = (Status.ofSnapshot i.components i.catalog).inverterCount := by
  have hcount : i.usage.count = (i.devices .inverter).length := by
    simp [usage, Inventory.usage, Usage.ofRatings]
  rw [hcount]
  exact i.length_devices_add_unlisted .inverter

variable {i category}

theorem mem_unlisted_iff {id : String} : id ∈ i.unlisted category ↔
    ∃ c, i.components.get? id = some c ∧ i.catalog.covers category c.factory ∧
      Listing.last? i.listings i.catalog category id = none := by
  have hentry (c : Component) : (id, c) ∈ i.components.entries ↔ i.components.get? id = some c :=
    ⟨lookup_eq_some_of_mem i.components.nodup_keys, mem_of_lookup_eq_some⟩
  simp only [unlisted, Status.inCategory, List.mem_map, List.mem_filter, Option.isNone_iff_eq_none]
  constructor
  · rintro ⟨⟨id, c⟩, ⟨⟨he, hcovers⟩, hlast⟩, rfl⟩
    exact ⟨c, (hentry c).1 he, hcovers, hlast⟩
  · rintro ⟨c, hc, hcovers, hlast⟩
    exact ⟨(id, c), ⟨⟨(hentry c).2 hc, hcovers⟩, hlast⟩, rfl⟩

/-- What holds of every device holds of every live component of the category, apart from those that are not listed. -/
theorem forall_devices_iff {P : String → Component → Prop} : (∀ d ∈ i.devices category, P d.id d.component) ↔
    ∀ id c, i.components.get? id = some c → i.catalog.covers category c.factory →
      id ∉ i.unlisted category → P id c := by
  constructor
  · intro h id c hc hcovers hlisted
    rcases hlast : Listing.last? i.listings i.catalog category id with _ | l
    · exact absurd (mem_unlisted_iff.2 ⟨c, hc, hcovers, hlast⟩) hlisted
    · exact h ⟨id, l.pid, c⟩ (Inventory.mem_join_iff.2 ⟨hc, hcovers, l, hlast, rfl⟩)
  · intro h d hd
    obtain ⟨hc, hcovers, l, hlast, -⟩ := Inventory.mem_join_iff.1 hd
    refine h d.id d.component hc hcovers fun hunlisted => ?_
    obtain ⟨-, -, -, hnone⟩ := mem_unlisted_iff.1 hunlisted
    rw [hlast] at hnone
    cases hnone

/-- What the tier says of another inverter where it has no room left. -/
theorem checkAdd_eq_error (watts : Float) (h : i.catalog.activeTier.maxInverters ≤ i.usage.count) :
    i.usage.checkAdd watts = .error (.tooManyInverters i.catalog.activeTier.maxInverters) := by
  have hfull : i.usage.tier.maxInverters ≤ i.usage.count := h
  rw [Usage.checkAdd, if_pos hfull]
  rfl

/-- Where the tier has no room left, an inverter is refused before its brand is looked at. -/
theorem admitInverter_eq_error {brand : String} {s : InverterSettings}
    (h : i.catalog.activeTier.maxInverters ≤ i.usage.count) :
    i.admitInverter brand s = .error (.tier (.tooManyInverters i.catalog.activeTier.maxInverters)) := by
  rw [admitInverter, i.checkAdd_eq_error _ h]
  rfl

theorem admitInverter_eq_ok {brand : String} {s : InverterSettings} {factory : String}
    (h : i.admitInverter brand s = .ok factory) : i.usage.count < i.catalog.activeTier.maxInverters := by
  refine Nat.lt_of_not_le fun hfull => ?_
  rw [admitInverter_eq_error hfull] at h
  cases h

end Installation

namespace Action

variable {σ : Type} {setup : Setup σ} {brand : String} {settings : InverterSettings} {s s' : Session σ}
  {i : Installation}

/-- Where the survey finds no room left, the tier ends the addition. -/
theorem addInverter_of_full (hsurvey : survey setup s = .ok i s')
    (hfull : i.catalog.activeTier.maxInverters ≤ i.usage.count) :
    addInverter setup brand settings s = .error (.tier (.tooManyInverters i.catalog.activeTier.maxInverters)) s' := by
  refine (bind_of_ok hsurvey _).trans (bind_of_error ?_ _)
  rw [Installation.admitInverter_eq_error hfull]
  rfl

/-- Behind a choice for a new inverter stands a survey that found room for it. -/
theorem exists_room_of_choose {choice : ComponentMap × Decision String}
    (h : (NewDevice.inverter brand settings).choose setup s = .ok choice s') :
    ∃ i s₁, survey setup s = .ok i s₁ ∧ i.usage.count < i.catalog.activeTier.maxInverters := by
  obtain ⟨factory, count, s₁, hprepare, -, -⟩ := NewDevice.choose_eq_ok h
  obtain ⟨i, hsurvey, hfactory⟩ := NewDevice.prepare_inverter_eq_ok hprepare
  exact ⟨i, s₁, hsurvey, Installation.admitInverter_eq_ok hfactory⟩

/-- An inverter is only posted if the inverters that are live and listed are fewer than the tier allows; otherwise the
tier is named and nothing is posted.  Live inverters that are not listed do not count. -/
theorem addInverter_room (setup : Setup σ) (brand : String) (settings : InverterSettings) (s : Session σ) :
    ∃ es, ((addInverter setup brand settings).after s).log = s.log ++ es ∧
      (∀ e ∈ es, e.isWrite → ∃ i s', survey setup s = .ok i s' ∧ i.IsSeen setup s' ∧
        (Status.ofSnapshot i.components setup.catalog).inverterCount <
          setup.catalog.activeTier.maxInverters + (i.unlisted .inverter).length) ∧
      ∀ i s', survey setup s = .ok i s' →
        setup.catalog.activeTier.maxInverters + (i.unlisted .inverter).length ≤
          (Status.ofSnapshot i.components setup.catalog).inverterCount →
        (addInverter setup brand settings).outcome s =
            .error (.tier (.tooManyInverters setup.catalog.activeTier.maxInverters)) ∧
          ∀ e ∈ es, e.isWrite = false := by
  obtain ⟨es, hlog, hwrites, -⟩ := NewDevice.add_writes setup (.inverter brand settings) s
  refine ⟨es, hlog, fun e he hw => ?_, fun i s' hsurvey hfull => ?_⟩
  · obtain ⟨choice, s₁, hchoose, -⟩ := hwrites e he hw
    obtain ⟨i, s', hsurvey, hlt⟩ := exists_room_of_choose hchoose
    have hseen := survey_eq_ok hsurvey
    have hcount := i.count_usage
    rw [hseen.1] at hcount hlt
    exact ⟨i, s', hsurvey, hseen, by omega⟩
  · have hcount := i.count_usage
    rw [← (survey_eq_ok hsurvey).1] at hfull ⊢
    have hge : i.catalog.activeTier.maxInverters ≤ i.usage.count := by omega
    refine ⟨(outcome_eq_error (addInverter_of_full hsurvey hge)).1, fun e he => ?_⟩
    rw [← Bool.not_eq_true]
    intro hw
    -- what is written was chosen, but there was no room
    obtain ⟨choice, s₁, hchoose, -⟩ := hwrites e he hw
    obtain ⟨i', s'', hsurvey', hlt⟩ := exists_room_of_choose hchoose
    rw [hsurvey] at hsurvey'
    cases hsurvey'
    omega

end Action

/-! ### An inverter that is not listed -/

/-- The bundled catalog with a tier for a single inverter. -/
private def singleInverter : Catalog :=
  { Catalog.bundled with
    inverters := Catalog.bundled.inverters.map fun setup =>
      { setup with currentTier := "single", tiers := .ofList [("single", ⟨1, 100⟩)] } }

/-- One inverter is live, and the page lists nothing. -/
private def unlistedInverter : Session Simulation where
  remote := { server := { routes :=
    [{ method := "GET", path := "*", body := "var configData = \x7b\"pids\":[]\x7d;" }] } }
  store := { snapshot := some (.ofList [("pvInverter0", { factory := "PV-Inverter.Fronius" })]) }

/-- With an inverter that is live but not listed, a tier for one inverter admits a second. -/
theorem not_forall_inverterCount_lt :
    ¬ ∀ (setup : Setup Simulation) (brand : String) (settings : InverterSettings) (s : Session Simulation)
      (es : List Exchange), ((Action.addInverter setup brand settings).after s).log = s.log ++ es →
      ∀ e ∈ es, e.isWrite → ∀ i s', Action.survey setup s = .ok i s' →
        (Status.ofSnapshot i.components setup.catalog).inverterCount < setup.catalog.activeTier.maxInverters := by
  intro hroom
  let setup := Simulation.setup singleInverter
  let settings : InverterSettings := ⟨1000, "modbus0", 1⟩
  have hany : ((Action.addInverter setup "Fronius" settings).after unlistedInverter).log.any (·.isWrite) := by
    decide +kernel
  have hcount : ((Action.survey setup).after unlistedInverter).store.snapshot.map
      (fun components => (Status.ofSnapshot components singleInverter).inverterCount) = some 1 := by
    decide +kernel
  have hmax : singleInverter.activeTier.maxInverters = 1 := by decide +kernel
  have hok : ((Action.survey setup).outcome unlistedInverter).isOk := by decide +kernel
  obtain ⟨e, he, hw⟩ := List.any_eq_true.1 hany
  rcases hsurvey : Action.survey setup unlistedInverter with ⟨i, s'⟩ | ⟨f, s'⟩
  · have hlt : (Status.ofSnapshot i.components singleInverter).inverterCount < singleInverter.activeTier.maxInverters :=
      hroom setup "Fronius" settings unlistedInverter _ (List.nil_append _).symm e he hw i s' hsurvey
    rw [(Action.outcome_eq_ok hsurvey).2, (Action.survey_eq_ok hsurvey).2.1, Option.map_some, Option.some_inj] at hcount
    omega
  · rw [(Action.outcome_eq_error hsurvey).1] at hok
    cases hok

end EnergyGateway
