import EnergyGateway.Proofs.Session.Controller
import EnergyGateway.Proofs.Session.Target

/-!
# Changes under an empty PID

The page may list a configuration under an empty PID, which would name the configuration manager itself.  What is
updated is never posted to it: the update is refused, unless a check that comes before refuses it already.  The limit
goes the same way (`DeviceChange.perform_update_place`).  A deletion has no such check, and is posted under whatever PID
is listed (`DeviceChange.delete_place`, `not_forall_delete_place`).
-/

namespace EnergyGateway

theorem Posting.change_empty (c : Configuration) : Posting.change "" c = .error (.pidNotFound c.id) := rfl

theorem Installation.device_of_listed {i : Installation} {category : Category} {id : String} {component : Component}
    {listing : Listing} (hcomponent : i.components.get? id = some component)
    (hcovers : i.catalog.covers category component.factory)
    (hlisting : Listing.last? i.listings i.catalog category id = some listing) :
    i.device category id = .ok ⟨id, listing.pid, component⟩ := by
  unfold device devices
  rw [Inventory.find?_join]
  simp [hcomponent, Option.filter, hcovers, hlisting]

/-- What is decided behind a survey is carried out. -/
theorem Action.change_of_decided {σ α : Type} {setup : Setup σ} {decide : Installation → Except Failure (Decision α)}
    {i : Installation} {d : Decision α} {s s' : Session σ} (hsurvey : survey setup s = .ok i s')
    (hdecide : decide i = .ok d) : change setup decide s = carryOut setup d s' := by
  have hrun : change setup decide s = (ofExcept (decide i) >>= carryOut setup) s' := by
    unfold change
    exact bind_of_ok hsurvey _
  rw [hrun, hdecide]
  exact bind_of_ok rfl _

namespace DeviceChange

/-! ### Changes of what is configured -/

/-- Whether a change fills in a configuration that there is, or may be: that of a device, or of the limit. -/
def isUpdate : DeviceChange → Bool
  | updateSerialPort .. | updateInverter .. | updateMeter .. | updateStorage .. | setPowerLimit .. => true
  | _ => false

/-- The configuration that is changed is listed under a PID: that of a component of the category under its id, that of
the controller of the limit under its alias or its id. -/
inductive Listed (i : Installation) : DeviceChange → String → String → Prop
  | device {c category id component listing} (htarget : c.target? = some (category, id))
      (hcomponent : i.components.get? id = some component) (hcovers : i.catalog.covers category component.factory)
      (hlisting : Listing.last? i.listings i.catalog category id = some listing) : Listed i c id listing.pid
  | controller {enabled setpoint id c pid} (hcontroller : i.IsController id c) (hlists : i.ListsController id c pid) :
      Listed i (setPowerLimit enabled setpoint) id pid

/-- The checks of a change that come before its PID: that of the tier, of the role, and of the limit. -/
def precheck (i : Installation) : DeviceChange → Except Failure Unit
  | updateInverter id s => do
    let d ← i.device .inverter id
    Installation.withinTier (i.usage.checkUpdate d.component.ratedPower (Float.ofNat s.ratedPower.toNat))
  | updateMeter id s => do
    let d ← i.device .meter id
    i.requireRole s.role (d.component.text? "type")
  | setPowerLimit _ setpoint =>
    match setpoint.resolve i.limitedPower with
    | .ok _ => .ok ()
    | .error e => .error (.invalidValue e)
  | _ => .ok ()

/-- What is decided on is posted to a place that is listed, or creates the controller of the limit; what is listed under
an empty PID is refused as soon as the checks before it are passed. -/
structure Guards {α : Type} (c : DeviceChange) (decide : Installation → Except Failure (Decision α)) : Prop where
  place : ∀ i d, decide i = .ok d → d.posting.place ≠ "" ∧
    ((∃ id, c.Listed i id d.posting.place) ∨ i.CreatesController d.posting)
  empty : ∀ i id, c.Listed i id "" → decide i = (c.precheck i >>= fun _ => .error (.pidNotFound id))

variable {i : Installation} {c : DeviceChange} {category : Category} {id pid : String}

theorem Listed.device_eq_ok {id' : String} (h : c.Listed i id' pid) (htarget : c.target? = some (category, id)) :
    id' = id ∧ ∃ component, i.device category id = .ok ⟨id, pid, component⟩ := by
  cases h with
  | device htarget' hcomponent hcovers hlisting =>
    rw [htarget, Option.some_inj] at htarget'
    cases htarget'
    exact ⟨rfl, _, Installation.device_of_listed hcomponent hcovers hlisting⟩
  | controller => cases htarget

theorem Listed.limitState_eq {enabled : Bool} {setpoint : Setpoint Float}
    (h : (setPowerLimit enabled setpoint).Listed i id pid) :
    i.limitState.id = some id ∧ i.limitState.pid = some pid := by
  generalize hc : setPowerLimit enabled setpoint = c at h
  cases h with
  | device htarget =>
    rw [← hc] at htarget
    cases htarget
  | controller hcontroller hlists =>
    exact ⟨(Installation.limitState_of_some (Installation.limitController?_eq_some_iff.2 hcontroller)).1,
      (Installation.limitState_pid_eq_some_iff hcontroller).2 hlists⟩

theorem listed_of_device {d : ManagedDevice} (htarget : c.target? = some (category, id))
    (h : i.device category id = .ok d) : c.Listed i id d.pid := by
  obtain ⟨hcomponent, hcovers, listing, hlisting, hpid⟩ := Installation.device_eq_ok h
  rw [hpid]
  exact .device htarget hcomponent hcovers hlisting

/-- An update of a device looks for it, checks it, and fills in its configuration. -/
theorem guards_of_device (check : Installation → ManagedDevice → Except Failure Unit)
    {filled : Installation → ManagedDevice → Configuration} (htarget : c.target? = some (category, id))
    (hid : ∀ i d, (filled i d).id = id)
    (hprecheck : ∀ i d, i.device category id = .ok d → c.precheck i = check i d) :
    c.Guards fun i => do
      let d ← i.device category id
      check i d
      Decision.changing d (filled i d) where
  place := by
    intro i decision h
    obtain ⟨d, hd, hrest⟩ := exists_of_bind_eq_ok h
    obtain ⟨-, -, hchanging⟩ := exists_of_bind_eq_ok hrest
    obtain ⟨posting, hposting, hpure⟩ := exists_of_bind_eq_ok hchanging
    cases hpure
    obtain ⟨hpid, -, hplace⟩ := Posting.change_eq_ok hposting
    rw [hplace]
    exact ⟨hpid, .inl ⟨id, listed_of_device htarget hd⟩⟩
  empty := by
    intro i id' hlisted
    obtain ⟨rfl, component, hd⟩ := hlisted.device_eq_ok htarget
    have hchanging : Decision.changing ⟨id', "", component⟩ (filled i ⟨id', "", component⟩) =
        .error (.pidNotFound id') := by
      unfold Decision.changing
      rw [Posting.change_empty, hid]
      rfl
    rw [hprecheck i _ hd, hd, ← hchanging]
    rfl

theorem guards_setLimit (enabled : Bool) (setpoint : Setpoint Float) :
    (setPowerLimit enabled setpoint).Guards (·.setLimit enabled setpoint) where
  place := by
    intro i d h
    rcases (Installation.setLimit_eq_ok h).target with hcreates | ⟨id, c, hchanges⟩
    · exact ⟨by rw [hcreates.place]; decide, .inr hcreates⟩
    · refine ⟨?_, .inl ⟨id, .controller hchanges.controller hchanges.place⟩⟩
      obtain ⟨watts, hresolve⟩ := Installation.resolve_of_setLimit h
      have hpid := (Installation.limitState_pid_eq_some_iff hchanges.controller).2 hchanges.place
      rw [Installation.setLimit_of_resolve hresolve, hpid] at h
      obtain ⟨posting, hposting, -⟩ := exists_of_bind_eq_ok h
      exact (Posting.change_eq_ok hposting).1
  empty := by
    intro i id hlisted
    obtain ⟨hid, hpid⟩ := hlisted.limitState_eq
    rcases hresolve : setpoint.resolve i.limitedPower with e | watts
    · simp only [precheck, hresolve, Installation.setLimit, Installation.limitState_total]
      rfl
    · rw [Installation.setLimit_of_resolve hresolve, hpid]
      simp only [precheck, hresolve, Posting.change_empty, Installation.postedController, hid]
      rfl

/-- Every update is guarded. -/
theorem perform_of_isUpdate {σ : Type} (setup : Setup σ) (h : c.isUpdate) :
    ∃ decide, c.perform setup = Action.change setup decide ∧ c.Guards decide := by
  cases c with
  | updateSerialPort id line =>
    exact ⟨_, rfl, guards_of_device (fun _ _ => pure ()) rfl (fun _ _ => rfl) fun _ _ _ => rfl⟩
  | updateInverter id s =>
    refine ⟨_, rfl, guards_of_device _ rfl (fun _ _ => rfl) fun i d hd => ?_⟩
    simp only [precheck, hd]
    rfl
  | updateMeter id s =>
    refine ⟨_, rfl, guards_of_device _ rfl (fun _ _ => rfl) fun i d hd => ?_⟩
    simp only [precheck, hd]
    rfl
  | updateStorage id s =>
    exact ⟨_, rfl, guards_of_device (fun _ _ => pure ()) rfl (fun _ _ => rfl) fun _ _ _ => rfl⟩
  | setPowerLimit enabled setpoint => exact ⟨_, rfl, guards_setLimit enabled setpoint⟩
  | _ => cases h

/-! ### Where a change is posted -/

/-- An update is not posted to the manager itself, and is refused where nothing but an empty PID is listed. -/
theorem perform_update_place {σ : Type} (setup : Setup σ) (h : c.isUpdate) (s : Session σ) :
    ∃ es, ((c.perform setup).after s).log = s.log ++ es ∧
      (∀ e ∈ es, e.isWrite → ∃ i s' p, Action.survey setup s = .ok i s' ∧ i.IsSeen setup s' ∧ Posting.SentAs setup p e ∧
        p.place ≠ "" ∧ ((∃ id, c.Listed i id p.place) ∨ i.CreatesController p)) ∧
      ∀ i s' id, Action.survey setup s = .ok i s' → c.Listed i id "" →
        (c.perform setup).outcome s = (c.precheck i >>= fun _ => .error (.pidNotFound id)) ∧
          ∀ e ∈ es, e.isWrite = false := by
  obtain ⟨decide, hperform, hguards⟩ := perform_of_isUpdate setup h
  rw [hperform]
  obtain ⟨es, hlog, hwrites, hrefused⟩ := Action.change_writes setup decide s
  refine ⟨es, hlog, fun e he hw => ?_, fun i s' id hsurvey hlisted => ?_⟩
  · obtain ⟨i, s', d, hsurvey, hdecide, hsent⟩ := hwrites e he hw
    obtain ⟨hplace, hlisted⟩ := hguards.place i d hdecide
    exact ⟨i, s', d.posting, hsurvey, Action.survey_eq_ok hsurvey, hsent, hplace, hlisted⟩
  · have hdecide := hguards.empty i id hlisted
    rcases hprecheck : c.precheck i with f | ⟨⟩
    · rw [hprecheck] at hdecide
      exact hrefused i s' f hsurvey hdecide
    · rw [hprecheck] at hdecide
      exact hrefused i s' (.pidNotFound id) hsurvey hdecide

/-- A deletion is posted to the PID that is listed, whatever it is. -/
theorem delete_place {σ : Type} (setup : Setup σ) (category : Category) (id : String) (s : Session σ) :
    ∃ es, ((Action.deleteDevice setup category id).after s).log = s.log ++ es ∧
      ∀ i s' pid, Action.survey setup s = .ok i s' → (delete category id).Listed i id pid →
        Action.deleteDevice setup category id s = Action.carryOut setup ⟨.deletion pid, ()⟩ s' ∧
          ∀ e ∈ es, e.isWrite → (Posting.deletion pid).SentAs setup e := by
  obtain ⟨es, hlog, hwrites, -⟩ := Action.change_writes setup (·.deleteDevice category id) s
  refine ⟨es, hlog, fun i s' pid hsurvey hlisted => ?_⟩
  obtain ⟨-, component, hd⟩ := hlisted.device_eq_ok rfl
  have hdecide : i.deleteDevice category id = .ok ⟨.deletion pid, ()⟩ := by
    unfold Installation.deleteDevice
    rw [hd]
    rfl
  refine ⟨Action.change_of_decided hsurvey hdecide, fun e he hw => ?_⟩
  obtain ⟨i', s₁, d, hsurvey', hdecide', hsent⟩ := hwrites e he hw
  rw [hsurvey] at hsurvey'
  cases hsurvey'
  rw [hdecide] at hdecide'
  cases hdecide'
  exact hsent

/-- Updates and the limit are never posted to the manager itself.  Where the PID that is listed is empty they are
refused, by a check of the tier, of the role or of the limit if one refuses them, and otherwise as not listed.  A
deletion is posted to the PID that is listed, whatever it is. -/
theorem perform_place {σ : Type} (setup : Setup σ) (s : Session σ) :
    (∀ c : DeviceChange, c.isUpdate → ∃ es, ((c.perform setup).after s).log = s.log ++ es ∧
      (∀ e ∈ es, e.isWrite → ∃ i s' p, Action.survey setup s = .ok i s' ∧ i.IsSeen setup s' ∧ Posting.SentAs setup p e ∧
        p.place ≠ "" ∧ ((∃ id, c.Listed i id p.place) ∨ i.CreatesController p)) ∧
      ∀ i s' id, Action.survey setup s = .ok i s' → c.Listed i id "" →
        (c.perform setup).outcome s = (c.precheck i >>= fun _ => .error (.pidNotFound id)) ∧
          ∀ e ∈ es, e.isWrite = false) ∧
    ∀ category id, ∃ es, ((Action.deleteDevice setup category id).after s).log = s.log ++ es ∧
      ∀ i s' pid, Action.survey setup s = .ok i s' → (delete category id).Listed i id pid →
        Action.deleteDevice setup category id s = Action.carryOut setup ⟨.deletion pid, ()⟩ s' ∧
          ∀ e ∈ es, e.isWrite → (Posting.deletion pid).SentAs setup e :=
  ⟨fun _ h => perform_update_place setup h s, fun category id => delete_place setup category id s⟩

end DeviceChange

/-! ### A meter that is listed under an empty PID -/

/-- A meter is live, and the page lists it under an empty PID. -/
private def emptyPid : Session Simulation where
  remote := { server := { routes := [{ method := "GET", path := "*", body :=
    "var configData = \x7b\"pids\":[" ++
    "\x7b\"id\":\"\",\"fpid\":\"Meter.Socomec.Threephase\",\"nameHint\":\"[meter0]\"\x7d]\x7d;" }] } }
  store := { snapshot := some (.ofList [("meter0", { factory := "Meter.Socomec.Threephase" })]) }

/-- A deletion is posted to the manager itself where the PID is empty, and succeeds. -/
theorem not_forall_delete_place :
    (¬ ∀ (setup : Setup Simulation) (category : Category) (id : String) (s : Session Simulation) (es : List Exchange),
      ((Action.deleteDevice setup category id).after s).log = s.log ++ es →
        ∀ e ∈ es, e.isWrite → ∀ p, Posting.SentAs setup p e → p.place ≠ "") ∧
    ¬ ∀ (setup : Setup Simulation) (category : Category) (id : String) (s : Session Simulation) (i : Installation)
      (s' : Session Simulation), Action.survey setup s = .ok i s' → (DeviceChange.delete category id).Listed i id "" →
        (Action.deleteDevice setup category id).outcome s = .error (.pidNotFound id) := by
  let setup := Simulation.setup .bundled
  have hfound : ((Action.survey setup).outcome emptyPid).toOption.any fun i =>
      (i.device .meter "meter0").toOption.any (·.pid == "") := by
    decide +kernel
  obtain ⟨i, s', hsurvey, hempty⟩ := Action.exists_survey_of_any hfound
  have hlisted : (DeviceChange.delete .meter "meter0").Listed i "meter0" "" := by
    rcases hd : i.device .meter "meter0" with f | d
    · rw [hd] at hempty
      cases hempty
    · rw [hd] at hempty
      rw [← show d.pid = "" from beq_iff_eq.1 hempty]
      exact DeviceChange.listed_of_device rfl hd
  constructor
  · intro hplace
    have hany : ((Action.deleteDevice setup .meter "meter0").after emptyPid).log.any (·.isWrite) := by
      decide +kernel
    obtain ⟨e, he, hw⟩ := List.any_eq_true.1 hany
    obtain ⟨es, hlog, hdeletes⟩ := DeviceChange.delete_place setup .meter "meter0" emptyPid
    rw [hlog] at he
    obtain ⟨-, hsent⟩ := hdeletes i s' "" hsurvey hlisted
    exact hplace setup .meter "meter0" emptyPid es hlog e he hw _ (hsent e he hw) rfl
  · intro hrefused
    have hok : ((Action.deleteDevice setup .meter "meter0").outcome emptyPid).isOk := by
      decide +kernel
    rw [hrefused setup .meter "meter0" emptyPid i s' hsurvey hlisted] at hok
    cases hok

end EnergyGateway
