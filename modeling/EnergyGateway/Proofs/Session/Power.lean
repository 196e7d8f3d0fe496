import EnergyGateway.Proofs.Quantity.Numbers
import EnergyGateway.Proofs.Session.Limit
import EnergyGateway.Proofs.Session.Room
import EnergyGateway.Simulation.Line

/-!
# Power that cannot be measured

An inverter is refused if it has more power than is left, and a limit if it is above the installed power.  Neither
comparison can be made where what is left, or what is installed, is no number: then nothing is refused
(`Action.power_checks`).  Finite ratings always leave numbers.

A rating that arrives as text may be no number.  A single one is enough to switch both checks off
(`not_forall_power_within`).
-/

namespace EnergyGateway

namespace Usage

variable {tier : Tier Float} {ratings : List Float}

theorem isNaN_remaining_of_mem {rating : Float} (h : rating ∈ ratings) (hrating : rating.isNaN) :
    (ofRatings tier ratings).remaining.isNaN := by
  refine Quantity.isNaN_sub_of_isNaN ?_
  rw [ofRatings, Quantity.isNaN_kilowatts]
  exact Quantity.isNaN_foldl_of_mem h hrating

theorem isNaN_remaining (htier : tier.maxPower.isFinite) (h : ∀ rating ∈ ratings, rating.isFinite) :
    (ofRatings tier ratings).remaining.isNaN = false := by
  refine (Quantity.isNaN_sub htier).trans ?_
  rw [ofRatings, Quantity.isNaN_kilowatts, Quantity.isNaN_foldl h]
  exact Quantity.isNaN_ofNat 0

/-- Where there is room for another inverter, only its power is checked. -/
theorem checkAdd_of_lt {u : Usage Float} {watts : Float} (h : u.count < u.tier.maxInverters) :
    u.checkAdd watts = u.checkPower (kilowatts watts) := if_neg (Nat.not_le_of_lt h)

/-- An inverter passes the check of its power exactly if that is at most what is left, or what is left is no number. -/
theorem checkPower_kilowatts_eq_ok_iff {u : Usage Float} {watts : Nat} :
    u.checkPower (kilowatts (Float.ofNat watts)) = .ok () ↔
      Quantity.atMost (kilowatts (Float.ofNat watts)) u.remaining ∨ u.remaining.isNaN := by
  have hnumber : (kilowatts (Float.ofNat watts)).isNaN = false :=
    (Quantity.isNaN_kilowatts _).trans (Quantity.isNaN_ofNat watts)
  have hless := Quantity.less_eq_false_iff (a := u.remaining) (b := kilowatts (Float.ofNat watts))
  rw [hnumber, or_iff_left Bool.false_ne_true] at hless
  rw [← hless, checkPower]
  split <;> simp [*]

end Usage

namespace Setpoint

variable {setpoint : Setpoint Float} {total : Float} {watts : UInt64}

/-- A limit is resolved only if it is at most the installed power, or that is no number. -/
theorem upTo_eq_ok_iff : upTo total watts = .ok watts ↔
    Quantity.atMost (Quantity.ofNat watts.toNat) total ∨ total.isNaN := by
  have hless := Quantity.less_eq_false_iff (a := total) (b := Quantity.ofNat watts.toNat)
  rw [Quantity.isNaN_ofNat, or_iff_left Bool.false_ne_true] at hless
  rw [← hless, upTo]
  split <;> simp [*]

theorem eq_of_upTo {n : UInt64} (h : upTo total n = .ok watts) : n = watts := by
  unfold upTo at h
  split at h
  · cases h
  · exact Except.ok.inj h

/-- What a limit is resolved to was compared with the installed power. -/
theorem upTo_of_resolve (h : setpoint.resolve total = .ok watts) : upTo total watts = .ok watts := by
  cases setpoint with
  | watts n =>
    obtain rfl : n = watts := eq_of_upTo h
    exact h
  | percent p =>
    rw [resolve] at h
    split at h
    · rwa [eq_of_upTo h] at h
    · cases h

end Setpoint

namespace Installation

/-- What the ratings of the inverters make of the checks of power. -/
structure PowerBounds (i : Installation) : Prop where
  /-- Finite ratings leave a number to compare with. -/
  remaining : i.catalog.activeTier.maxPower.isFinite → (∀ d ∈ i.devices .inverter, d.component.ratedPower.isFinite) →
    i.usage.remaining.isNaN = false
  /-- One rating that is no number leaves none. -/
  remaining_isNaN : ∀ d ∈ i.devices .inverter, d.component.ratedPower.isNaN → i.usage.remaining.isNaN
  /-- Then an inverter of any power is admitted. -/
  admitted : i.usage.remaining.isNaN → i.usage.count < i.catalog.activeTier.maxInverters →
    ∀ brand settings, i.admitInverter brand settings = i.catalog.factoryOf .inverter brand
  installed : (∀ e ∈ i.limited, e.2.ratedPower.isFinite) → i.limitedPower.isNaN = false
  installed_isNaN : ∀ e ∈ i.limited, e.2.ratedPower.isNaN → i.limitedPower.isNaN
  /-- Then any limit in watts is resolved. -/
  resolved : i.limitedPower.isNaN → ∀ n, (Setpoint.watts n).resolve i.limitedPower = .ok n

variable {i : Installation} {brand factory : String} {settings : InverterSettings}

/-- An inverter is admitted only if it passes the check of its power. -/
theorem power_of_admitInverter (h : i.admitInverter brand settings = .ok factory) :
    Quantity.atMost (Usage.kilowatts (Float.ofNat settings.ratedPower.toNat)) i.usage.remaining ∨
      i.usage.remaining.isNaN := by
  have hroom := admitInverter_eq_ok h
  obtain ⟨⟨⟩, hcheck, -⟩ := exists_of_bind_eq_ok h
  rw [← Usage.checkPower_kilowatts_eq_ok_iff, ← Usage.checkAdd_of_lt hroom]
  unfold withinTier at hcheck
  split at hcheck
  · assumption
  · cases hcheck

theorem limitedPower_eq (i : Installation) :
    i.limitedPower = (i.limited.map fun e => e.2.ratedPower).foldl (· + ·) (-0.0) := by
  rw [limitedPower, List.foldl_map]

theorem powerBounds (i : Installation) : i.PowerBounds where
  remaining := fun htier hfinite => Usage.isNaN_remaining htier (List.forall_mem_map.2 hfinite)
  remaining_isNaN := fun d hd hnone => Usage.isNaN_remaining_of_mem (List.mem_map_of_mem hd) hnone
  admitted := by
    intro hnone hroom brand settings
    have hcheck : i.usage.checkAdd (Float.ofNat settings.ratedPower.toNat) = .ok () :=
      (Usage.checkAdd_of_lt hroom).trans (Usage.checkPower_kilowatts_eq_ok_iff.2 (.inr hnone))
    rw [admitInverter, hcheck]
    rfl
  installed := by
    intro hfinite
    rw [limitedPower_eq, Quantity.isNaN_foldl (List.forall_mem_map.2 hfinite)]
    decide
  installed_isNaN := by
    intro e he hnone
    rw [limitedPower_eq]
    exact Quantity.isNaN_foldl_of_mem (List.mem_map_of_mem he) hnone
  resolved := fun hnone n => Setpoint.upTo_eq_ok_iff.2 (.inr hnone)

end Installation

namespace Action

variable {σ : Type}

/-- An inverter is only posted if its power is at most what is left, or that is no number; a limit is only posted if it
is at most the installed power, or that is no number.  Finite ratings make both of them numbers, so that the comparisons
hold; with a rating that is no number, none is made. -/
theorem power_checks (setup : Setup σ) (s : Session σ) :
    (∀ brand settings, ∃ es, ((addInverter setup brand settings).after s).log = s.log ++ es ∧
      ∀ e ∈ es, e.isWrite → ∃ i s', survey setup s = .ok i s' ∧ i.IsSeen setup s' ∧
        (Quantity.atMost (Usage.kilowatts (Float.ofNat settings.ratedPower.toNat)) i.usage.remaining ∨
          i.usage.remaining.isNaN)) ∧
    (∀ enabled setpoint, ∃ es, ((setPowerLimit setup enabled setpoint).after s).log = s.log ++ es ∧
      ∀ e ∈ es, e.isWrite → ∃ i s' d, survey setup s = .ok i s' ∧ i.IsSeen setup s' ∧ d.posting.SentAs setup e ∧
        i.SetsLimit enabled setpoint d ∧
        (Quantity.atMost (Quantity.ofNat d.result.toNat) i.limitedPower ∨ i.limitedPower.isNaN)) ∧
    ∀ i : Installation, i.PowerBounds := by
  refine ⟨fun brand settings => ?_, fun enabled setpoint => ?_, Installation.powerBounds⟩
  · obtain ⟨es, hlog, hwrites, -⟩ := NewDevice.add_writes setup (.inverter brand settings) s
    refine ⟨es, hlog, fun e he hw => ?_⟩
    obtain ⟨choice, s₁, hchoose, -⟩ := hwrites e he hw
    obtain ⟨factory, count, s₂, hprepare, -, -⟩ := NewDevice.choose_eq_ok hchoose
    obtain ⟨i, hsurvey, hadmitted⟩ := NewDevice.prepare_inverter_eq_ok hprepare
    exact ⟨i, s₂, hsurvey, survey_eq_ok hsurvey, Installation.power_of_admitInverter hadmitted⟩
  · obtain ⟨es, hlog, -, hwrites, -⟩ := setPowerLimit_writes setup enabled setpoint s
    refine ⟨es, hlog, fun e he hw => ?_⟩
    obtain ⟨i, s', d, hsurvey, hseen, hsets, hsent, -⟩ := hwrites e he hw
    exact ⟨i, s', d, hsurvey, hseen, hsent, hsets, Setpoint.upTo_eq_ok_iff.1 (Setpoint.upTo_of_resolve hsets.resolved)⟩

end Action

/-! ### A rating that is no number -/

private def namelessPowerPage : String :=
  "var configData = \x7b\"pids\":[" ++
  "\x7b\"id\":\"felix.1\",\"fpid\":\"PV-Inverter.Fronius\",\"nameHint\":\"[pvInverter0]\"\x7d]\x7d;"

/-- One inverter is live and listed, and its rating is a text that reads as no number. -/
private def namelessPower : Session Simulation where
  remote := { server := { routes := [{ method := "GET", path := "*", body := namelessPowerPage }] } }
  store := { snapshot := some (.ofList [("pvInverter0",
    { factory := "PV-Inverter.Fronius", properties := .ofList [("maxActivePower", .string "NaN")] })]) }

/-- Beside an inverter whose rating is no number, an inverter of any power is posted, and so is any limit. -/
theorem not_forall_power_within :
    (¬ ∀ (setup : Setup Simulation) (brand : String) (settings : InverterSettings) (s : Session Simulation)
      (es : List Exchange), ((Action.addInverter setup brand settings).after s).log = s.log ++ es →
      ∀ e ∈ es, e.isWrite → ∀ i s', Action.survey setup s = .ok i s' →
        Quantity.atMost (Usage.kilowatts (Float.ofNat settings.ratedPower.toNat)) i.usage.remaining) ∧
    ¬ ∀ (setup : Setup Simulation) (enabled : Bool) (setpoint : Setpoint Float) (s : Session Simulation)
      (es : List Exchange), ((Action.setPowerLimit setup enabled setpoint).after s).log = s.log ++ es →
      ∀ e ∈ es, e.isWrite → ∀ i s' watts, Action.survey setup s = .ok i s' →
        setpoint.resolve i.limitedPower = .ok watts →
        Quantity.atMost (Quantity.ofNat watts.toNat) i.limitedPower := by
  let setup := Simulation.setup .bundled
  let settings : InverterSettings := ⟨4000000000, "modbus0", 1⟩
  have hseen : ((Action.survey setup).outcome namelessPower).toOption.any (fun i =>
      !Quantity.atMost (Usage.kilowatts (Float.ofNat settings.ratedPower.toNat)) i.usage.remaining &&
        (!Quantity.atMost (Quantity.ofNat 4000000000) i.limitedPower && i.limitedPower.isNaN)) := by
    decide +kernel
  obtain ⟨i, s', hsurvey, hpower⟩ := Action.exists_survey_of_any hseen
  simp only [Bool.and_eq_true, Bool.not_eq_true'] at hpower
  constructor
  · intro hwithin
    have hany : ((Action.addInverter setup "Fronius" settings).after namelessPower).log.any (·.isWrite) := by
      decide +kernel
    obtain ⟨e, he, hw⟩ := List.any_eq_true.1 hany
    have hadmitted := hwithin setup "Fronius" settings namelessPower _ (List.nil_append _).symm e he hw i s' hsurvey
    rw [hpower.1] at hadmitted
    cases hadmitted
  · intro hwithin
    have hany : ((Action.setPowerLimit setup true (.watts 4000000000)).after namelessPower).log.any (·.isWrite) := by
      decide +kernel
    obtain ⟨e, he, hw⟩ := List.any_eq_true.1 hany
    have hresolved : (Setpoint.watts 4000000000).resolve i.limitedPower = .ok 4000000000 :=
      i.powerBounds.resolved hpower.2.2 4000000000
    have hadmitted := hwithin setup true (.watts 4000000000) namelessPower _ (List.nil_append _).symm e he hw i s'
      4000000000 hsurvey hresolved
    rw [show (4000000000 : UInt64).toNat = 4000000000 from rfl, hpower.2.1] at hadmitted
    cases hadmitted

end EnergyGateway
