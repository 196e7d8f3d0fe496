import EnergyGateway.Proofs.Configuration.Reading
import EnergyGateway.Proofs.Inventory.Free
import EnergyGateway.Proofs.Session.Ids
import EnergyGateway.Proofs.Session.Room
import EnergyGateway.Proofs.Session.Target

/-!
# Roles of meters

A meter is posted only with a role of the catalog that no other listed meter has, or that the meter has already
(`addMeter_role`, `updateMeter_role`).  Any other role is refused by its name, and nothing is posted.

The role that a meter has already is recognised by its value: where two meters share a role, each may keep it
(`not_forall_role_unique`).  Meters that are live but not listed play no part.
-/

namespace EnergyGateway

namespace Installation

/-- The catalog has the role, and it is that of the meter being edited or no live and listed meter has it. -/
def AdmitsRole (i : Installation) (role : String) (editing : Option String) : Prop :=
  (∃ r ∈ i.catalog.meterRoles, r.value = role) ∧
    ((∀ id c, i.components.get? id = some c → i.catalog.covers .meter c.factory → id ∉ i.unlisted .meter →
      c.text? "type" ≠ some role) ∨ editing = some role)

variable {i : Installation} {role : String} {editing : Option String}

/-- What is told of a role that is not free. -/
def roleRefusal (role : String) : Failure :=
  .invalidValue ⟨"type", s!"meter type '{role}' is unknown or already used"⟩

theorem any_freeRoles_iff_admitsRole :
    (Inventory.freeRoles i.catalog (i.devices .meter) editing).any (·.value == role) ↔ i.AdmitsRole role editing := by
  rw [Inventory.any_freeRoles_iff, AdmitsRole,
    i.forall_devices_iff (P := fun _ c => c.text? "type" ≠ some role)]

theorem requireRole_eq_ok_iff : i.requireRole role editing = .ok () ↔ i.AdmitsRole role editing := by
  rw [← any_freeRoles_iff_admitsRole, requireRole]
  split <;> simp_all

theorem requireRole_eq_error (h : ¬i.AdmitsRole role editing) :
    i.requireRole role editing = .error (roleRefusal role) := by
  rw [← any_freeRoles_iff_admitsRole] at h
  rw [requireRole, if_neg h, roleRefusal]

end Installation

/-- A form for a meter with an id and a role. -/
def Posting.IsMeter (p : Posting) (id role : String) : Prop :=
  p.form.get? "id" = some id ∧ p.form.get? "type" = some role

/-! ### What is decided -/

namespace Decision

variable {m : Meter}

theorem creating_meter {d : Decision String} (h : Decision.creating (.meter m) = .ok d) :
    d.posting.IsMeter m.id m.role := by
  obtain ⟨posting, hposting, hpure⟩ := exists_of_bind_eq_ok h
  cases hpure
  obtain ⟨hform, -⟩ := Posting.creation_eq_ok hposting
  refine ⟨(Configuration.get?_createForm hform).1, ?_⟩
  obtain ⟨-, hform⟩ := Configuration.createForm_eq_ok hform
  rw [hform, Form.Draft.get?_finish _ (by decide)]
  exact (Configuration.filled_creationDraft _).properties ("type", m.role) (by simp [Configuration.properties])

theorem changing_meter {device : ManagedDevice} {d : Decision Unit} (h : Decision.changing device (.meter m) = .ok d) :
    d.posting.IsMeter m.id m.role := by
  obtain ⟨posting, hposting, hpure⟩ := exists_of_bind_eq_ok h
  cases hpure
  obtain ⟨-, hform, -⟩ := Posting.change_eq_ok hposting
  obtain ⟨-, hform⟩ := Configuration.updateForm_eq_ok hform
  rw [Posting.IsMeter, hform, Form.Draft.get?_finish _ (by decide), Form.Draft.get?_finish _ (by decide)]
  exact ⟨Configuration.get?_changeDraft_id _,
    (Configuration.filled_changeDraft _).properties ("type", m.role) (by simp [Configuration.properties])⟩

end Decision

namespace Installation

variable {i : Installation} {id : String} {settings : MeterSettings} {d : ManagedDevice}

theorem admitMeter_eq_ok {brand factory : String} (h : i.admitMeter brand settings = .ok factory) :
    i.AdmitsRole settings.role none := by
  obtain ⟨⟨⟩, hrole, -⟩ := exists_of_bind_eq_ok h
  exact requireRole_eq_ok_iff.1 hrole

/-- A role that is not free is refused before the brand is looked at. -/
theorem admitMeter_eq_error {brand : String} (h : ¬i.AdmitsRole settings.role none) :
    i.admitMeter brand settings = .error (roleRefusal settings.role) := by
  rw [admitMeter, requireRole_eq_error h]
  rfl

theorem updateMeter_eq_ok {decision : Decision Unit} (hd : i.device .meter id = .ok d)
    (h : i.updateMeter id settings = .ok decision) :
    i.AdmitsRole settings.role (d.component.text? "type") ∧ decision.posting.IsMeter id settings.role := by
  obtain ⟨d', hd', hrest⟩ := exists_of_bind_eq_ok h
  cases hd.symm.trans hd'
  obtain ⟨⟨⟩, hrole, hchanging⟩ := exists_of_bind_eq_ok hrest
  exact ⟨requireRole_eq_ok_iff.1 hrole, Decision.changing_meter hchanging⟩

theorem updateMeter_eq_error (hd : i.device .meter id = .ok d)
    (h : ¬i.AdmitsRole settings.role (d.component.text? "type")) :
    i.updateMeter id settings = .error (roleRefusal settings.role) := by
  unfold updateMeter
  rw [hd]
  change (i.requireRole settings.role (d.component.text? "type") >>= fun _ => _) = _
  rw [requireRole_eq_error h]
  rfl

end Installation

namespace Action

variable {σ : Type}

/-- A new meter is posted with a free role.  With any other role it is refused, and nothing is posted. -/
theorem addMeter_role (setup : Setup σ) (brand : String) (settings : MeterSettings) (s : Session σ) :
    ∃ es, ((addMeter setup brand settings).after s).log = s.log ++ es ∧
      (∀ e ∈ es, e.isWrite → ∃ i s' p id, survey setup s = .ok i s' ∧ i.IsSeen setup s' ∧ Posting.SentAs setup p e ∧
        p.IsMeter id settings.role ∧ i.AdmitsRole settings.role none) ∧
      ∀ i s', survey setup s = .ok i s' → ¬i.AdmitsRole settings.role none →
        (addMeter setup brand settings).outcome s = .error (Installation.roleRefusal settings.role) ∧
          ∀ e ∈ es, e.isWrite = false := by
  obtain ⟨es, hlog, hwrites, -⟩ := NewDevice.add_writes setup (.meter brand settings) s
  -- behind what is written stands a survey that admitted the role
  have hadmitted : ∀ e ∈ es, e.isWrite → ∃ i s' p id, survey setup s = .ok i s' ∧ Posting.SentAs setup p e ∧
      p.IsMeter id settings.role ∧ i.AdmitsRole settings.role none := by
    intro e he hw
    obtain ⟨choice, s₁, hchoose, hsent⟩ := hwrites e he hw
    obtain ⟨factory, count, s', hprepare, -, hcreating⟩ := NewDevice.choose_eq_ok hchoose
    obtain ⟨i, hsurvey, hadmit⟩ := NewDevice.prepare_meter_eq_ok hprepare
    exact ⟨i, s', choice.2.posting, _, hsurvey, hsent, Decision.creating_meter hcreating,
      Installation.admitMeter_eq_ok hadmit⟩
  refine ⟨es, hlog, fun e he hw => ?_, fun i s' hsurvey hnot => ⟨?_, fun e he => ?_⟩⟩
  · obtain ⟨i, s', p, id, hsurvey, hsent, hmeter, hadmits⟩ := hadmitted e he hw
    exact ⟨i, s', p, id, hsurvey, survey_eq_ok hsurvey, hsent, hmeter, hadmits⟩
  · have hrun : addMeter setup brand settings s = .error (Installation.roleRefusal settings.role) s' := by
      refine (bind_of_ok hsurvey _).trans (bind_of_error ?_ _)
      rw [Installation.admitMeter_eq_error hnot]
      rfl
    exact (outcome_eq_error hrun).1
  · rw [← Bool.not_eq_true]
    intro hw
    obtain ⟨i', s'', p, id, hsurvey', -, -, hadmits⟩ := hadmitted e he hw
    rw [hsurvey] at hsurvey'
    cases hsurvey'
    exact hnot hadmits

/-- A meter is changed to a free role, or keeps its own. -/
theorem updateMeter_role (setup : Setup σ) (id : String) (settings : MeterSettings) (s : Session σ) :
    ∃ es, ((updateMeter setup id settings).after s).log = s.log ++ es ∧
      (∀ e ∈ es, e.isWrite → ∃ i s' p d, survey setup s = .ok i s' ∧ i.IsSeen setup s' ∧ Posting.SentAs setup p e ∧
        p.IsMeter id settings.role ∧ i.device .meter id = .ok d ∧
        i.AdmitsRole settings.role (d.component.text? "type")) ∧
      ∀ i s' d, survey setup s = .ok i s' → i.device .meter id = .ok d →
        ¬i.AdmitsRole settings.role (d.component.text? "type") →
        (updateMeter setup id settings).outcome s = .error (Installation.roleRefusal settings.role) ∧
          ∀ e ∈ es, e.isWrite = false := by
  obtain ⟨es, hlog, hwrites, hrefused⟩ := change_writes setup (·.updateMeter id settings) s
  refine ⟨es, hlog, fun e he hw => ?_, fun i s' d hsurvey hd hnot => ?_⟩
  · obtain ⟨i, s', decision, hsurvey, hdecide, hsent⟩ := hwrites e he hw
    obtain ⟨d, hd, -⟩ := exists_of_bind_eq_ok hdecide
    obtain ⟨hadmits, hmeter⟩ := Installation.updateMeter_eq_ok hd hdecide
    exact ⟨i, s', decision.posting, d, hsurvey, survey_eq_ok hsurvey, hsent, hmeter, hd, hadmits⟩
  · exact hrefused i s' _ hsurvey (Installation.updateMeter_eq_error hd hnot)

end Action

/-! ### Postings of meters -/

/-- The role that a change posts for a meter. -/
def DeviceChange.role? : DeviceChange → Option String
  | addMeter _ s | updateMeter _ s => some s.role
  | _ => none

/-- The role that the meter has which is changed.  A meter that is added has none. -/
def Installation.roleBefore (i : Installation) : DeviceChange → Except Failure (Option String)
  | .updateMeter id _ => do return (← i.device .meter id).component.text? "type"
  | _ => .ok none

/-- A meter is posted only with a role that is admitted: the catalog has it, and no live and listed meter has it, except
that a meter keeps its own.  A change posts it for the meter that is changed.  A role that is not admitted is told, and
nothing is posted. -/
theorem DeviceChange.perform_role {σ : Type} (setup : Setup σ) {c : DeviceChange} {role : String}
    (h : c.role? = some role) (s : Session σ) :
    ∃ es, ((c.perform setup).after s).log = s.log ++ es ∧
      (∀ e ∈ es, e.isWrite → ∃ i s' p id before, Action.survey setup s = .ok i s' ∧ i.IsSeen setup s' ∧
        Posting.SentAs setup p e ∧ p.IsMeter id role ∧ (∀ target, c.target? = some target → target = (.meter, id)) ∧
        i.roleBefore c = .ok before ∧ i.AdmitsRole role before) ∧
      ∀ i s' before, Action.survey setup s = .ok i s' → i.roleBefore c = .ok before → ¬i.AdmitsRole role before →
        (c.perform setup).outcome s = .error (Installation.roleRefusal role) ∧ ∀ e ∈ es, e.isWrite = false := by
  cases c with
  | addMeter brand settings =>
    cases h
    obtain ⟨es, hlog, hwrites, hrefused⟩ := Action.addMeter_role setup brand settings s
    refine ⟨es, hlog, fun e he hw => ?_, fun i s' before hsurvey hbefore => ?_⟩
    · obtain ⟨i, s', p, id, hsurvey, hseen, hsent, hmeter, hadmits⟩ := hwrites e he hw
      exact ⟨i, s', p, id, none, hsurvey, hseen, hsent, hmeter, nofun, rfl, hadmits⟩
    · cases hbefore
      exact hrefused i s' hsurvey
  | updateMeter id settings =>
    cases h
    obtain ⟨es, hlog, hwrites, hrefused⟩ := Action.updateMeter_role setup id settings s
    refine ⟨es, hlog, fun e he hw => ?_, fun i s' before hsurvey hbefore => ?_⟩
    · obtain ⟨i, s', p, d, hsurvey, hseen, hsent, hmeter, hd, hadmits⟩ := hwrites e he hw
      refine ⟨i, s', p, id, _, hsurvey, hseen, hsent, hmeter, ?_, ?_, hadmits⟩
      · rintro _ ⟨⟩
        rfl
      · rw [Installation.roleBefore, hd]
        rfl
    · obtain ⟨d, hd, hpure⟩ := exists_of_bind_eq_ok hbefore
      cases hpure
      exact hrefused i s' d hsurvey hd
  | _ => cases h

/-! ### Meters that share a role -/

private def meterWithRole (role : String) : Component :=
  { factory := "Meter.Socomec.Threephase", properties := .ofList [("type", .string role)] }

private def meterSettings (role : String) : MeterSettings := ⟨"Hall", role, "modbus0", 1, false⟩

/-- A live meter has the role. -/
private def hasRole (i : Installation) (id role : String) : Bool :=
  (i.components.get? id).any fun c => i.catalog.covers .meter c.factory && c.text? "type" == some role

private theorem hasRole_iff {i : Installation} {id role : String} : hasRole i id role ↔
    ∃ c, i.components.get? id = some c ∧ i.catalog.covers .meter c.factory ∧ c.text? "type" = some role := by
  simp [hasRole, Option.any_eq_true]

/-- One meter for the production is live, and the page lists nothing. -/
private def unlistedMeter : Session Simulation where
  remote := { server := { routes :=
    [{ method := "GET", path := "*", body := "var configData = \x7b\"pids\":[]\x7d;" }] } }
  store := { snapshot := some (.ofList [("meter0", meterWithRole "PRODUCTION")]) }

theorem perform_role_grid :
    (DeviceChange.addMeter "Socomec" (meterSettings "GRID")).role? = some "GRID" ∧
    ∃ e ∈ (((DeviceChange.addMeter "Socomec" (meterSettings "GRID")).perform
        (Simulation.setup .bundled)).after unlistedMeter).log, e.isWrite ∧
      ∃ i s', Action.survey (Simulation.setup .bundled) unlistedMeter = .ok i s' ∧ i.AdmitsRole "GRID" none := by
  obtain ⟨es, hlog, hwrites, -⟩ := DeviceChange.perform_role (Simulation.setup .bundled)
    (c := .addMeter "Socomec" (meterSettings "GRID")) rfl unlistedMeter
  have hany : (((DeviceChange.addMeter "Socomec" (meterSettings "GRID")).perform
      (Simulation.setup .bundled)).after unlistedMeter).log.any (·.isWrite) := by
    decide +kernel
  obtain ⟨e, he, hw⟩ := List.any_eq_true.1 hany
  refine ⟨rfl, e, he, hw, ?_⟩
  rw [hlog] at he
  obtain ⟨i, s', p, id, before, hsurvey, -, -, -, -, hbefore, hadmits⟩ := hwrites e he hw
  cases hbefore
  exact ⟨i, s', hsurvey, hadmits⟩

private def twoMetersPage : String :=
  "var configData = \x7b\"pids\":[" ++
  "\x7b\"id\":\"felix.1\",\"fpid\":\"Meter.Socomec.Threephase\",\"nameHint\":\"[meter0]\"\x7d," ++
  "\x7b\"id\":\"felix.2\",\"fpid\":\"Meter.Socomec.Threephase\",\"nameHint\":\"[meter1]\"\x7d]\x7d;"

/-- Two meters at the grid, both listed. -/
private def sharedRole : Session Simulation where
  remote := { server := { routes := [{ method := "GET", path := "*", body := twoMetersPage }] } }
  store := { snapshot := some (.ofList [("meter0", meterWithRole "GRID"), ("meter1", meterWithRole "GRID")]) }

/-- A role is not always that of a single meter.  A new meter may get the role of a meter that is not listed, and a meter
that shares its role with another listed one may keep it. -/
theorem not_forall_role_unique :
    (¬ ∀ (setup : Setup Simulation) (brand : String) (settings : MeterSettings) (s : Session Simulation)
      (es : List Exchange), ((Action.addMeter setup brand settings).after s).log = s.log ++ es →
      ∀ e ∈ es, e.isWrite → ∀ p id, Posting.SentAs setup p e → p.IsMeter id settings.role →
        ∀ i s', Action.survey setup s = .ok i s' → ∀ other c, i.components.get? other = some c →
          i.catalog.covers .meter c.factory → other ≠ id → c.text? "type" ≠ some settings.role) ∧
    ¬ ∀ (setup : Setup Simulation) (id : String) (settings : MeterSettings) (s : Session Simulation)
      (es : List Exchange), ((Action.updateMeter setup id settings).after s).log = s.log ++ es →
      ∀ e ∈ es, e.isWrite → ∀ p, Posting.SentAs setup p e → p.IsMeter id settings.role →
        ∀ i s', Action.survey setup s = .ok i s' → ∀ other c, i.components.get? other = some c →
          i.catalog.covers .meter c.factory → other ∉ i.unlisted .meter → other ≠ id →
          c.text? "type" ≠ some settings.role := by
  let setup := Simulation.setup .bundled
  constructor
  · intro hunique
    have hany : ((Action.addMeter setup "Socomec" (meterSettings "PRODUCTION")).after unlistedMeter).log.any
        (fun e => e.isWrite && e.createdId? == some "meter1") := by
      decide +kernel
    have hfound : ((Action.survey setup).outcome unlistedMeter).toOption.any (hasRole · "meter0" "PRODUCTION") := by
      decide +kernel
    obtain ⟨i, s', hsurvey, hproduction⟩ := Action.exists_survey_of_any hfound
    obtain ⟨c, hc, hcovers, hrole⟩ := hasRole_iff.1 hproduction
    obtain ⟨e, he, hwrite⟩ := List.any_eq_true.1 hany
    rw [Bool.and_eq_true, beq_iff_eq] at hwrite
    obtain ⟨es, hlog, hwrites, -⟩ := Action.addMeter_role setup "Socomec" (meterSettings "PRODUCTION") unlistedMeter
    rw [hlog] at he
    obtain ⟨-, -, p, id, -, -, hsent, hmeter, -⟩ := hwrites e he hwrite.1
    have hid : id = "meter1" := by
      rcases hsent.createdId? hmeter.1 with hcreated | hcreated <;> rw [hwrite.2] at hcreated <;> cases hcreated
      rfl
    exact hunique _ _ _ _ _ hlog e he hwrite.1 p id hsent hmeter i s' hsurvey "meter0" c hc hcovers (by simp [hid]) hrole
  · intro hunique
    have hany : ((Action.updateMeter setup "meter0" (meterSettings "GRID")).after sharedRole).log.any (·.isWrite) := by
      decide +kernel
    have hfound : ((Action.survey setup).outcome sharedRole).toOption.any fun i =>
        hasRole i "meter1" "GRID" && !(i.unlisted .meter).contains "meter1" := by
      decide +kernel
    obtain ⟨i, s', hsurvey, hgrid⟩ := Action.exists_survey_of_any hfound
    simp only [Bool.and_eq_true, hasRole_iff, Bool.not_eq_true', List.contains_eq_mem, decide_eq_false_iff_not] at hgrid
    obtain ⟨⟨c, hc, hcovers, hrole⟩, hlisted⟩ := hgrid
    obtain ⟨e, he, hw⟩ := List.any_eq_true.1 hany
    obtain ⟨es, hlog, hwrites, -⟩ := Action.updateMeter_role setup "meter0" (meterSettings "GRID") sharedRole
    rw [hlog] at he
    obtain ⟨-, -, p, -, -, -, hsent, hmeter, -⟩ := hwrites e he hw
    exact hunique _ _ _ _ _ hlog e he hw p hsent hmeter i s' hsurvey "meter1" c hc hcovers hlisted (by decide) hrole

end EnergyGateway
