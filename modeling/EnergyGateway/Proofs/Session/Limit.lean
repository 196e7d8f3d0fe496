import EnergyGateway.Proofs.Installation.Limit
import EnergyGateway.Proofs.Session.Addition
import EnergyGateway.Simulation.Line

/-!
# Limits that are posted

Setting the limit posts at most one form, and the form is what was decided on the installation that was seen
(`setPowerLimit_writes`).  So the controller of the limit is created only where there is none, and changed under the PID
that is listed for it otherwise (`setPowerLimit_single`).

The limit is set for the components whose id has the form of an inverter's (`setPowerLimit_covers`).  The overview knows
inverters by their factory, so it may count others (`not_forall_limited_eq_inverters`).
-/

namespace EnergyGateway

namespace Action

variable {σ : Type}

/-- Setting the limit writes at most once: what was decided on the installation that was seen, and what is told is the
limit that was decided on.  It writes nothing if it was decided against. -/
theorem setPowerLimit_writes (setup : Setup σ) (enabled : Bool) (setpoint : Setpoint Float) (s : Session σ) :
    ∃ es, ((setPowerLimit setup enabled setpoint).after s).log = s.log ++ es ∧
      (es.filter Exchange.isWrite).length ≤ 1 ∧
      (∀ e ∈ es, e.isWrite → ∃ i s' d, survey setup s = .ok i s' ∧ i.IsSeen setup s' ∧
        i.SetsLimit enabled setpoint d ∧ d.posting.SentAs setup e ∧
        ∀ told, (setPowerLimit setup enabled setpoint).outcome s = .ok told → told = d.result) ∧
      ∀ i s' f, survey setup s = .ok i s' → i.setLimit enabled setpoint = .error f →
        (setPowerLimit setup enabled setpoint).outcome s = .error f ∧ ∀ e ∈ es, e.isWrite = false := by
  obtain ⟨es, hlog, hwrites, hrefused⟩ := change_writes setup (·.setLimit enabled setpoint) s
  refine ⟨es, hlog, ?_, fun e he hw => ?_, hrefused⟩
  · obtain ⟨es', hlog', hatomic⟩ := DeviceChange.perform_atomic setup (.setPowerLimit enabled setpoint) s
    obtain rfl : es' = es := List.append_cancel_left (hlog'.symm.trans hlog)
    exact hatomic.writes_le_one
  · obtain ⟨i, s', d, hsurvey, hdecide, hsent⟩ := hwrites e he hw
    refine ⟨i, s', d, hsurvey, survey_eq_ok hsurvey, Installation.setLimit_eq_ok hdecide, hsent, fun told htold => ?_⟩
    obtain ⟨s'', hrun⟩ := exists_of_outcome_eq_ok htold
    rcases change_cases setup (·.setLimit enabled setpoint) s with
      ⟨f, s₁, hsurvey', -⟩ | ⟨i', s₁, hsurvey', ⟨f, hdecide', -⟩ | ⟨d', hdecide', hcarry⟩⟩
    · rw [hsurvey] at hsurvey'
      cases hsurvey'
    · rw [hsurvey] at hsurvey'
      cases hsurvey'
      rw [hdecide] at hdecide'
      cases hdecide'
    · rw [hsurvey] at hsurvey'
      cases hsurvey'
      rw [hdecide] at hdecide'
      cases hdecide'
      exact carryOut_eq_ok (hcarry.symm.trans hrun)

/-- The controller of the limit is never doubled.  A posting creates it only where there is none, and otherwise changes
the first one under the PID that is listed for it; it says the limit that is told and the state that was asked for.  A
controller that is not listed is an error, and without inverters nothing is switched on. -/
theorem setPowerLimit_single (setup : Setup σ) (enabled : Bool) (setpoint : Setpoint Float) (s : Session σ) :
    ∃ es, ((setPowerLimit setup enabled setpoint).after s).log = s.log ++ es ∧
      (es.filter Exchange.isWrite).length ≤ 1 ∧
      (∀ e ∈ es, e.isWrite → ∃ i s' d, survey setup s = .ok i s' ∧ i.IsSeen setup s' ∧
        i.SetsLimit enabled setpoint d ∧ d.posting.SentAs setup e ∧
        ∀ told, (setPowerLimit setup enabled setpoint).outcome s = .ok told → told = d.result) ∧
      ∀ i s', survey setup s = .ok i s' →
        (∀ id c watts, i.IsController id c →
          (∀ l ∈ i.listings, l.factory = some Configuration.limitFactory →
            ¬l.Hints (c.displayName id) ∧ ¬l.Hints id) →
          setpoint.resolve i.limitedPower = .ok watts →
          (setPowerLimit setup enabled setpoint).outcome s = .error (.pidNotFound id) ∧ ∀ e ∈ es, e.isWrite = false) ∧
        (enabled → (∀ id ∈ i.components.keys, Inventory.isInverterId id = false) → ∀ e ∈ es, e.isWrite = false) := by
  obtain ⟨es, hlog, hone, hwrites, hrefused⟩ := setPowerLimit_writes setup enabled setpoint s
  refine ⟨es, hlog, hone, hwrites, fun i s' hsurvey => ⟨?_, fun henabled hnone e he => ?_⟩⟩
  · intro id c watts hcontroller hlisted hresolve
    exact hrefused i s' _ hsurvey (Installation.setLimit_eq_error hcontroller hlisted hresolve)
  · rw [← Bool.not_eq_true]
    intro hw
    obtain ⟨i', s'', d, hsurvey', -, hsets, -⟩ := hwrites e he hw
    rw [hsurvey] at hsurvey'
    cases hsurvey'
    -- what is limited is in the snapshot, where no id has the form of an inverter's
    obtain ⟨e', he'⟩ := List.exists_mem_of_ne_nil _ (hsets.nonempty henabled)
    obtain ⟨hmem, hid⟩ := List.mem_filter.1 he'
    rw [hnone e'.1 (List.mem_map_of_mem hmem)] at hid
    cases hid

/-- The limit is posted for exactly the components with an id of the form of an inverter's, whatever their factory, and
what is posted was resolved for the sum of their power.  They are the inverters of the overview exactly if no component
has only the id or only the factory of an inverter. -/
theorem setPowerLimit_covers (setup : Setup σ) (enabled : Bool) (setpoint : Setpoint Float) (s : Session σ) :
    ∃ es, ((setPowerLimit setup enabled setpoint).after s).log = s.log ++ es ∧
      ∀ e ∈ es, e.isWrite → ∃ i s' p watts, survey setup s = .ok i s' ∧ i.IsSeen setup s' ∧ Posting.SentAs setup p e ∧
        p.form.get? "pvInverter.id" = some (",".intercalate (i.limited.map Prod.fst)) ∧
        p.form.get? "powerLimit" = some (toString watts.toNat) ∧
        setpoint.resolve (i.limited.foldl (fun total e => total + e.2.ratedPower) (-0.0)) = .ok watts ∧
        (∀ e, e ∈ i.limited ↔ i.components.get? e.1 = some e.2 ∧ Inventory.isInverterId e.1) ∧
        (i.limited = Status.inCategory i.components setup.catalog .inverter ↔
          ∀ e ∈ i.components.entries, Inventory.isInverterId e.1 = setup.catalog.covers .inverter e.2.factory) := by
  obtain ⟨es, hlog, -, hwrites, -⟩ := setPowerLimit_writes setup enabled setpoint s
  refine ⟨es, hlog, fun e he hw => ?_⟩
  obtain ⟨i, s', d, hsurvey, hseen, hsets, hsent, -⟩ := hwrites e he hw
  refine ⟨i, s', d.posting, d.result, hsurvey, hseen, hsent, hsets.inverters, hsets.limit, hsets.resolved,
    fun e => Installation.mem_limited_iff, ?_⟩
  rw [← hseen.1]
  exact i.limited_eq_iff

end Action

/-! ### An inverter with another id -/

private def fiveKilowatts : Component :=
  { factory := "PV-Inverter.Fronius", properties := .ofList [("maxActivePower", .number (.int 5000))] }

/-- Two inverters are live, one with an id that an operator chose. -/
private def namedInverter : Session Simulation where
  remote := { server := { routes :=
    [{ method := "GET", path := "*", body := "var configData = \x7b\"pids\":[]\x7d;" }] } }
  store := { snapshot := some (.ofList [("pvInverter0", fiveKilowatts), ("roof", fiveKilowatts)]) }

/-- The limit is not posted for an inverter with another id. -/
theorem not_forall_limited_eq_inverters :
    ¬ ∀ (setup : Setup Simulation) (enabled : Bool) (setpoint : Setpoint Float) (s : Session Simulation)
      (es : List Exchange), ((Action.setPowerLimit setup enabled setpoint).after s).log = s.log ++ es →
      ∀ e ∈ es, e.isWrite → ∀ p, Posting.SentAs setup p e → ∀ i s', Action.survey setup s = .ok i s' →
        p.form.get? "pvInverter.id" =
          some (",".intercalate ((Status.inCategory i.components setup.catalog .inverter).map Prod.fst)) := by
  intro hcovers
  let setup := Simulation.setup .bundled
  have hany : ((Action.setPowerLimit setup true (.watts 4000)).after namedInverter).log.any (·.isWrite) := by
    decide +kernel
  have hids : ((Action.survey setup).after namedInverter).store.snapshot.map (fun components =>
      (",".intercalate ((Installation.limited ⟨.bundled, [], components⟩).map Prod.fst),
        ",".intercalate ((Status.inCategory components .bundled .inverter).map Prod.fst))) =
      some ("pvInverter0", "pvInverter0,roof") := by
    decide +kernel
  obtain ⟨e, he, hw⟩ := List.any_eq_true.1 hany
  obtain ⟨es, hlog, -, hwrites, -⟩ := Action.setPowerLimit_writes setup true (.watts 4000) namedInverter
  obtain rfl : _ = es := (hlog.trans (List.nil_append es))
  obtain ⟨i, s', d, hsurvey, hseen, hsets, hsent, -⟩ := hwrites e he hw
  have hposted := hcovers setup true (.watts 4000) namedInverter _ hlog e he hw d.posting hsent i s' hsurvey
  rw [(Action.outcome_eq_ok hsurvey).2, hseen.2.1, Option.map_some, Option.some_inj, Prod.mk.injEq] at hids
  have hlimited : ",".intercalate (i.limited.map Prod.fst) = "pvInverter0" := hids.1
  have hinverters : ",".intercalate ((Status.inCategory i.components setup.catalog .inverter).map Prod.fst) =
      "pvInverter0,roof" := hids.2
  rw [hsets.inverters, hlimited, hinverters] at hposted
  exact absurd hposted (by decide)

end EnergyGateway
