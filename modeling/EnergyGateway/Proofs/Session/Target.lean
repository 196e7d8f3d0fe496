import EnergyGateway.Proofs.Decision
import EnergyGateway.Proofs.Inventory
import EnergyGateway.Proofs.Session.Atomicity
import EnergyGateway.Simulation.Line

/-!
# A change of a device touches that device only

A device is deleted or changed under its id.  What is posted goes to the PID of the last listing of the category
that names the id, provided that the snapshot has a component of the category under it; otherwise the change ends
with `pidNotFound` and nothing is posted (`perform_touches_target`).
-/

namespace EnergyGateway

/-- The category and the id of the device that is deleted or changed. -/
def DeviceChange.target? : DeviceChange → Option (Category × String)
  | delete category id => some (category, id)
  | updateSerialPort id _ => some (.serialPort, id)
  | updateInverter id _ => some (.inverter, id)
  | updateMeter id _ => some (.meter, id)
  | updateStorage id _ => some (.storage, id)
  | _ => none

/-! ### Decisions on a device -/

/-- Whether a decision posts to the PID of a device. -/
def Decision.IsFor {α : Type} (d : ManagedDevice) (r : Except Failure (Decision α)) : Prop :=
  ∀ decision, r = .ok decision → decision.posting.place = d.pid

theorem Decision.isFor_changing (d : ManagedDevice) (c : Configuration) : Decision.IsFor d (Decision.changing d c) := by
  intro decision h
  obtain ⟨posting, hposting, hpure⟩ := exists_of_bind_eq_ok h
  cases hpure
  exact (Posting.change_eq_ok hposting).2.2

theorem Decision.isFor_bind {α β : Type} (d : ManagedDevice) (x : Except Failure β)
    {f : β → Except Failure (Decision α)} (h : ∀ b, IsFor d (f b)) : IsFor d (x >>= f) := by
  cases x with
  | ok b => exact h b
  | error e =>
    intro decision hd
    cases hd

/-- A change with a target first looks for the device, and then decides on a posting to its PID. -/
theorem DeviceChange.perform_of_target {σ : Type} (setup : Setup σ) {c : DeviceChange} {category : Category}
    {id : String} (h : c.target? = some (category, id)) :
    ∃ decide : Installation → ManagedDevice → Except Failure (Decision c.Result),
      c.perform setup = Action.change setup (fun i => i.device category id >>= decide i) ∧
      (∀ i d, Decision.IsFor d (decide i d)) ∧
      (c = .delete category id → ∀ i d decision, decide i d = .ok decision → decision.posting.form = .deletion) := by
  cases c with
  | delete =>
    cases h
    refine ⟨fun i d => .ok ⟨.deletion d.pid, ()⟩, rfl, fun i d decision hd => ?_, fun _ i d decision hd => ?_⟩
    · cases hd
      rfl
    · cases hd
      rfl
  | updateSerialPort id line =>
    cases h
    exact ⟨fun i d => Decision.changing d (.serialPort ⟨id, i.portName d, line⟩), rfl,
      fun i d => Decision.isFor_changing d _, nofun⟩
  | updateInverter id s =>
    cases h
    refine ⟨fun i d => do
      Installation.withinTier (i.usage.checkUpdate d.component.ratedPower (Float.ofNat s.ratedPower.toNat))
      Decision.changing d (.inverter ⟨d.component.factory, id, s.ratedPower, s.bridge, s.unit⟩), rfl, ?_, nofun⟩
    exact fun i d => Decision.isFor_bind d _ fun _ => Decision.isFor_changing d _
  | updateMeter id s =>
    cases h
    refine ⟨fun i d => do
      i.requireRole s.role (d.component.text? "type")
      Decision.changing d (.meter ⟨d.component.factory, id, s.label, s.role, s.bridge, s.unit, s.invert⟩), rfl, ?_,
      nofun⟩
    exact fun i d => Decision.isFor_bind d _ fun _ => Decision.isFor_changing d _
  | updateStorage id s =>
    cases h
    exact ⟨fun i d => Decision.changing d (.storage ⟨d.component.factory, id, s.label, s.bridge, s.unit⟩), rfl,
      fun i d => Decision.isFor_changing d _, nofun⟩
  | _ => cases h

/-! ### Changes of a device -/

/-- The request of a posting that belongs to a device: the snapshot has a component of the category under the id, and
the posting goes to the PID of the last listing of the category that names the id. -/
def Exchange.IsPostingFor {σ : Type} (setup : Setup σ) (i : Installation) (category : Category) (id : String)
    (form : Form) (e : Exchange) : Prop :=
  ∃ component listing, i.components.get? id = some component ∧ setup.catalog.covers category component.factory ∧
    Listing.last? i.listings setup.catalog category id = some listing ∧
    Posting.SentAs setup ⟨listing.pid, form⟩ e

theorem body_deletion : (Http.Payload.form .deletion).body = "apply=true&delete=true".toUTF8 :=
  congrArg String.toUTF8 (by decide : Form.deletion.encode = "apply=true&delete=true")

/-- A change of a device posts to that device only, and fails without posting where there is none. -/
theorem DeviceChange.perform_touches_target {σ : Type} (setup : Setup σ) {c : DeviceChange} {category : Category}
    {id : String} (h : c.target? = some (category, id)) (s : Session σ) :
    ∃ es, ((c.perform setup).after s).log = s.log ++ es ∧
      (∀ e ∈ es, e.isWrite → ∃ i s' form, Action.survey setup s = .ok i s' ∧ i.IsSeen setup s' ∧
        e.IsPostingFor setup i category id form ∧
        (c = .delete category id → (Http.Payload.form form).body = "apply=true&delete=true".toUTF8)) ∧
      ∀ i s', Action.survey setup s = .ok i s' →
        (∀ component, i.components.get? id = some component →
            setup.catalog.covers category component.factory = false) ∨
          Listing.last? i.listings setup.catalog category id = none →
        (c.perform setup).outcome s = .error (.pidNotFound id) ∧ ∀ e ∈ es, e.isWrite = false := by
  obtain ⟨decide, hperform, hfor, hdelete⟩ := c.perform_of_target setup h
  rw [hperform]
  obtain ⟨es, hlog, hwrites, hrefused⟩ := Action.change_writes setup (fun i => i.device category id >>= decide i) s
  refine ⟨es, hlog, fun e he hw => ?_, fun i s' hsurvey hmissing => ?_⟩
  · -- something was decided, so the device was found
    obtain ⟨i, s', d, hsurvey, hdecide, hsent⟩ := hwrites e he hw
    have hseen := Action.survey_eq_ok hsurvey
    rcases hdevice : i.device category id with f | device
    · rw [hdevice] at hdecide
      cases hdecide
    · rw [hdevice] at hdecide
      obtain ⟨hcomponent, hcovers, listing, hlisting, hpid⟩ := Installation.device_eq_ok hdevice
      rw [hseen.1] at hcovers hlisting
      refine ⟨i, s', d.posting.form, hsurvey, hseen, ⟨device.component, listing, hcomponent, hcovers, hlisting, ?_⟩,
        fun hc => ?_⟩
      · rw [← hpid, ← hfor i device d hdecide]
        exact hsent
      · rw [hdelete hc i device d hdecide]
        exact body_deletion
  · -- the device is looked for before anything is decided
    have hdevice : i.device category id = .error (.pidNotFound id) := Installation.device_eq_error (by
      rw [(Action.survey_eq_ok hsurvey).1]
      exact hmissing)
    refine hrefused i s' _ hsurvey ?_
    rw [hdevice]
    rfl

/-! ### A meter that is listed twice -/

private def rehearsal : Setup Simulation := ⟨Simulation.line, "0", { base := "http://console" }, .bundled⟩

private def twiceListedPage : String :=
  "var configData = \x7b\"pids\":[\x7b\"id\":\"first\",\"fpid\":\"Meter.Socomec.Threephase\",\"nameHint\":\"[meter0]\"\x7d," ++
  "\x7b\"id\":\"last\",\"fpid\":\"Meter.Socomec.Threephase\",\"nameHint\":\"Meter [meter0]\"\x7d]\x7d;"

/-- A meter, and a server with a page that lists it under two PIDs. -/
private def twiceListed : Session Simulation where
  remote := { server := { routes := [{ method := "GET", path := "*", body := twiceListedPage }] } }
  store := { snapshot := some (.ofList [("meter0", { factory := "Meter.Socomec.Threephase" })]) }

theorem delete_twice_listed :
    (DeviceChange.delete .meter "meter0").target? = some (.meter, "meter0") ∧
    ∃ e ∈ (((DeviceChange.delete .meter "meter0").perform rehearsal).after twiceListed).log, e.isWrite ∧
      ∃ i s' form, Action.survey rehearsal twiceListed = .ok i s' ∧
        e.IsPostingFor rehearsal i .meter "meter0" form ∧
        (Http.Payload.form form).body = "apply=true&delete=true".toUTF8 := by
  obtain ⟨es, hlog, hwrites, -⟩ := DeviceChange.perform_touches_target rehearsal
    (c := .delete .meter "meter0") rfl twiceListed
  have hany : (((DeviceChange.delete .meter "meter0").perform rehearsal).after twiceListed).log.any (·.isWrite) := by
    decide +kernel
  obtain ⟨e, he, hw⟩ := List.any_eq_true.1 hany
  refine ⟨rfl, e, he, hw, ?_⟩
  rw [hlog] at he
  obtain ⟨i, s', form, hsurvey, -, hfor, hbody⟩ := hwrites e he hw
  exact ⟨i, s', form, hsurvey, hfor, hbody rfl⟩

end EnergyGateway
