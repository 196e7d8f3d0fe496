import EnergyGateway.Proofs.Decision
import EnergyGateway.Proofs.Session.Atomicity
import EnergyGateway.Proofs.Tier
import EnergyGateway.Simulation.Line

/-!
# Changed ratings

A changed rating is measured by what it grows by.  That is no more than what is left, unless the tier is exceeded
already: so a rating that does not grow is refused only where the inverters of the inventory had more power before than
the tier allows, and there it is refused unless it gives back enough (`updateInverter_lowered`).

After a downgrade of the tier the inverters may exceed it, and then an operator cannot lower the ratings step by step
(`not_forall_lowered_admitted`).
-/

namespace EnergyGateway

theorem Decision.changing_ne_tier {d : ManagedDevice} {c : Configuration} {v : TierViolation Float} :
    Decision.changing d c ≠ .error (.tier v) := by
  intro h
  unfold Decision.changing Posting.change at h
  split at h
  · cases h
  · split at h <;> cases h

namespace Installation

variable {i : Installation} {id : String} {settings : InverterSettings} {d : ManagedDevice} {v : TierViolation Float}

/-- What the rating of an inverter grows by with new settings, in kilowatts. -/
def growth (d : ManagedDevice) (settings : InverterSettings) : Float :=
  Usage.kilowatts (Float.ofNat settings.ratedPower.toNat - d.component.ratedPower)

/-- The tier refuses new settings exactly if the rating grows by more than is left. -/
theorem updateInverter_eq_tier_iff (hd : i.device .inverter id = .ok d) :
    i.updateInverter id settings = .error (.tier v) ↔
      Quantity.less i.usage.remaining (growth d settings) ∧ v = .tooMuchPower (growth d settings) i.usage.remaining := by
  rw [growth, ← Usage.checkUpdate_eq_error_iff]
  unfold updateInverter
  rw [hd]
  rcases hcheck : i.usage.checkUpdate d.component.ratedPower (Float.ofNat settings.ratedPower.toNat) with v' | ⟨⟩
  · simp [bind, Except.bind, withinTier, hcheck]
  · refine iff_of_false (fun h => ?_) (by simp)
    simp only [bind, Except.bind, withinTier, hcheck] at h
    exact Decision.changing_ne_tier h

end Installation

namespace Action

variable {σ : Type}

/-- A rating that does not grow is refused by the tier exactly if what is left is less than its growth.  Then the power
of the tier was exceeded before, both amounts are told, and nothing is posted. -/
theorem updateInverter_lowered (setup : Setup σ) (id : String) (settings : InverterSettings) (s : Session σ) :
    ∃ es, ((updateInverter setup id settings).after s).log = s.log ++ es ∧
      ∀ i s' d, survey setup s = .ok i s' → i.device .inverter id = .ok d →
        Quantity.atMost (Float.ofNat settings.ratedPower.toNat) d.component.ratedPower →
        ((∃ v, (updateInverter setup id settings).outcome s = .error (.tier v)) ↔
          Quantity.less i.usage.remaining (Installation.growth d settings)) ∧
        ∀ v, (updateInverter setup id settings).outcome s = .error (.tier v) →
          Quantity.less setup.catalog.activeTier.maxPower i.usage.power ∧
          v = .tooMuchPower (Installation.growth d settings) i.usage.remaining ∧ ∀ e ∈ es, e.isWrite = false := by
  obtain ⟨es, hlog, -, hrefused⟩ := change_writes setup (·.updateInverter id settings) s
  refine ⟨es, hlog, fun i s' d hsurvey hd hlowered => ?_⟩
  have htier (v : TierViolation Float) : (updateInverter setup id settings).outcome s = .error (.tier v) ↔
      Quantity.less i.usage.remaining (Installation.growth d settings) ∧
        v = .tooMuchPower (Installation.growth d settings) i.usage.remaining :=
    (change_eq_refusal_iff setup hsurvey rfl).trans (Installation.updateInverter_eq_tier_iff hd)
  refine ⟨by simp [htier], fun v hv => ?_⟩
  obtain ⟨hless, htold⟩ := (htier v).1 hv
  refine ⟨?_, htold, (hrefused i s' _ hsurvey (Installation.updateInverter_eq_tier_iff hd |>.2 ⟨hless, htold⟩)).2⟩
  rw [← (survey_eq_ok hsurvey).1]
  exact Usage.exceeded_of_checkUpdate_eq_error (u := i.usage) hlowered (Usage.checkUpdate_eq_error_iff.2 ⟨hless, rfl⟩)

end Action

/-! ### After a downgrade -/

/-- The bundled catalog with its tier for thirty kilowatts. -/
private def thirtyKilowatts : Catalog :=
  { Catalog.bundled with inverters := Catalog.bundled.inverters.map ({ · with currentTier := "basic" }) }

private def fiftyKilowattsPage : String :=
  "var configData = \x7b\"pids\":[" ++
  "\x7b\"id\":\"felix.1\",\"fpid\":\"PV-Inverter.Fronius\",\"nameHint\":\"[pvInverter0]\"\x7d]\x7d;"

/-- One inverter with fifty kilowatts is live, and listed. -/
private def fiftyKilowatts : Session Simulation where
  remote := { server := { routes := [{ method := "GET", path := "*", body := fiftyKilowattsPage }] } }
  store := { snapshot := some (.ofList [("pvInverter0",
    { factory := "PV-Inverter.Fronius", properties := .ofList [("maxActivePower", .number (.int 50000))] })]) }

/-- An inverter that has more power than a downgraded tier allows cannot be lowered by a little. -/
theorem not_forall_lowered_admitted :
    ¬ ∀ (setup : Setup Simulation) (id : String) (settings : InverterSettings) (s s' : Session Simulation)
      (i : Installation) (d : ManagedDevice), Action.survey setup s = .ok i s' → i.device .inverter id = .ok d →
      Quantity.atMost (Float.ofNat settings.ratedPower.toNat) d.component.ratedPower →
      ∀ v, (Action.updateInverter setup id settings).outcome s ≠ .error (.tier v) := by
  intro hadmitted
  let setup := Simulation.setup thirtyKilowatts
  let settings : InverterSettings := ⟨40000, "modbus0", 1⟩
  have hlowered : ((Action.survey setup).outcome fiftyKilowatts).toOption.any (fun i =>
      (i.device .inverter "pvInverter0").toOption.any fun d =>
        Quantity.atMost (Float.ofNat settings.ratedPower.toNat) d.component.ratedPower &&
          Quantity.less i.usage.remaining (Installation.growth d settings)) := by
    decide +kernel
  obtain ⟨i, s', hsurvey, hdevice⟩ := Action.exists_survey_of_any hlowered
  rcases hd : i.device .inverter "pvInverter0" with f | d
  · simp [Except.toOption, hd] at hdevice
  · simp only [Except.toOption, hd, Option.any_some, Bool.and_eq_true] at hdevice
    have hrefused := (Installation.updateInverter_eq_tier_iff hd).2 ⟨hdevice.2, rfl⟩
    exact hadmitted setup "pvInverter0" settings fiftyKilowatts s' i d hsurvey hd hdevice.1 _
      ((Action.change_eq_refusal_iff setup hsurvey rfl).2 hrefused)

end EnergyGateway
