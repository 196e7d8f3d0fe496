import EnergyGateway.Proofs.ComponentId
import EnergyGateway.Proofs.Decision
import EnergyGateway.Proofs.KeyMap
import EnergyGateway.Proofs.Session.Atomicity

/-!
# Adding a device

Inverters, meters and storage systems get a new id when they are added.  All three are added alike: something is
settled before (the factory, and for inverters how many there are), then an id is chosen from the snapshot, and the
configuration under that id is posted to the factory (`NewDevice.add_eq`).  So what is written belongs to one choice
(`NewDevice.add_writes`).
-/

namespace EnergyGateway

namespace Action

variable {σ α β : Type}

/-- A combined action goes on from where its first part succeeded. -/
theorem run_bind_of_ok {a : Action σ α} {s s' : Session σ} {x : α} (h : a s = .ok x s') (g : α → Action σ β) :
    (a >>= g).outcome s = (g x).outcome s' ∧ (a >>= g).after s = (g x).after s' := by
  have hrun := bind_of_ok h g
  exact ⟨by rw [outcome, hrun, ← outcome], by rw [after, hrun, ← after]⟩

theorem exists_of_outcome_eq_ok {a : Action σ α} {s : Session σ} {x : α} (h : a.outcome s = .ok x) :
    ∃ s', a s = .ok x s' := by
  unfold outcome at h
  split at h
  · rename_i y s' hrun
    cases h
    exact ⟨s', hrun⟩
  · cases h

theorem carryOut_eq_ok {setup : Setup σ} {d : Decision α} {x : α} {s s' : Session σ}
    (h : carryOut setup d s = .ok x s') : x = d.result := by
  obtain ⟨-, s₁, -, hsettle⟩ := bind_eq_ok h
  obtain ⟨-, s₂, -, hpure⟩ := bind_eq_ok hsettle
  exact (pure_eq_ok hpure).1

end Action

/-- A device that gets a new id when it is added. -/
inductive NewDevice where
  | inverter (brand : String) (s : InverterSettings)
  | meter (brand : String) (s : MeterSettings)
  | storage (brand : String) (s : StorageSettings)

namespace NewDevice

variable {σ : Type} (setup : Setup σ) (d : NewDevice)

def category : NewDevice → Category
  | inverter .. => .inverter
  | meter .. => .meter
  | storage .. => .storage

/-- The name or the factory of the brand that is asked for. -/
def brand : NewDevice → String
  | inverter brand _ | meter brand _ | storage brand _ => brand

/-- The stem of the new id. -/
def stem : NewDevice → String
  | inverter .. => ComponentId.inverterStem
  | meter .. => ComponentId.meterStem
  | storage .. => ComponentId.storageStem

/-- Add the device, and tell its id. -/
def add : NewDevice → Action σ String
  | inverter brand s => Action.addInverter setup brand s
  | meter brand s => Action.addMeter setup brand s
  | storage brand s => Action.addStorage setup brand s

/-- What is settled before the id is chosen: the factory, and the number from which an inverter's id follows. -/
def prepare : NewDevice → Action σ (String × Nat)
  | inverter brand s => do
    let i ← Action.survey setup
    let factory ← Action.ofExcept (i.admitInverter brand s)
    return (factory, (i.devices .inverter).length)
  | meter brand s => do
    let factory ← Action.ofExcept ((← Action.survey setup).admitMeter brand s)
    return (factory, 0)
  | storage brand _ => do
    let factory ← Action.ofExcept (setup.catalog.factoryOf .storage brand)
    return (factory, 0)

/-- The id that is chosen from a snapshot. -/
def newId (components : ComponentMap) (count : Nat) : NewDevice → String
  | inverter .. => Installation.newInverterId components count
  | d => ComponentId.next d.stem components.keys

/-- The configuration of the device. -/
def configuration (factory id : String) : NewDevice → Configuration
  | inverter _ s => .inverter ⟨factory, id, s.ratedPower, s.bridge, s.unit⟩
  | meter _ s => .meter ⟨factory, id, s.label, s.role, s.bridge, s.unit, s.invert⟩
  | storage _ s => .storage ⟨factory, id, s.label, s.bridge, s.unit⟩

/-- Choose the id from the snapshot as it is once the device is admitted, and decide on the posting. -/
def choose : Action σ (ComponentMap × Decision String) := do
  let (factory, count) ← d.prepare setup
  let components ← Action.snapshot setup.line
  let decision ← Action.ofExcept (Decision.creating (d.configuration factory (d.newId components count)))
  return (components, decision)

theorem add_eq : d.add setup = d.choose setup >>= fun choice => Action.carryOut setup choice.2 := by
  cases d <;>
    simp only [add, choose, prepare, Action.addInverter, Action.addMeter, Action.addStorage, bind_assoc, pure_bind] <;>
    rfl

/-! ### The new id -/

theorem newId_eq_numbered (components : ComponentMap) (count : Nat) :
    ∃ n, d.newId components count = ComponentId.numbered d.stem n := by
  cases d with
  | inverter =>
    simp only [newId, Installation.newInverterId]
    split
    · exact ⟨_, rfl⟩
    · exact ⟨count, rfl⟩
  | meter => exact ⟨_, rfl⟩
  | storage => exact ⟨_, rfl⟩

/-- No component of the snapshot has the new id.  The number of components is a word. -/
theorem newId_free {components : ComponentMap} (hsize : components.size ≤ Text.wordMax) (count : Nat) :
    components.contains (d.newId components count) = false := by
  have hlength : components.keys.length ≤ Text.wordMax := by rwa [KeyMap.keys, List.length_map]
  have hnext : ∀ stem, components.contains (ComponentId.next stem components.keys) = false := fun stem =>
    KeyMap.contains_eq_false_iff.2 (ComponentId.next_not_mem hlength)
  cases d with
  | inverter =>
    simp only [newId, Installation.newInverterId]
    split
    · exact hnext _
    · rename_i hfree
      rwa [Bool.not_eq_true] at hfree
  | meter => exact hnext _
  | storage => exact hnext _

/-- The stems differ in their first letter, so an id belongs to one category. -/
theorem category_eq_of_numbered {d d' : NewDevice} {n m : Nat}
    (h : ComponentId.numbered d.stem n = ComponentId.numbered d'.stem m) : d.category = d'.category := by
  have hfirst := congrArg (fun id => id.toList.head?) h
  simp only [ComponentId.toList_numbered] at hfirst
  cases d <;> cases d' <;> first | rfl | simp [stem, ComponentId.inverterStem, ComponentId.meterStem, ComponentId.storageStem] at hfirst

/-! ### What is chosen -/

variable {setup d}

theorem choose_eq_ok {choice : ComponentMap × Decision String} {s s' : Session σ}
    (h : d.choose setup s = .ok choice s') :
    ∃ factory count s₁, d.prepare setup s = .ok (factory, count) s₁ ∧
      Action.snapshot setup.line s₁ = .ok choice.1 s' ∧
      Decision.creating (d.configuration factory (d.newId choice.1 count)) = .ok choice.2 := by
  obtain ⟨⟨factory, count⟩, s₁, hprepare, hrest⟩ := Action.bind_eq_ok h
  obtain ⟨components, s₂, hsnapshot, hlast⟩ := Action.bind_eq_ok hrest
  obtain ⟨decision, s₃, hdecide, hpure⟩ := Action.bind_eq_ok hlast
  obtain ⟨hcreating, rfl⟩ := Action.ofExcept_eq_ok hdecide
  obtain ⟨rfl, rfl⟩ := Action.pure_eq_ok hpure
  exact ⟨factory, count, s₁, hprepare, hsnapshot, hcreating⟩

/-- What is chosen creates the device under a new id. -/
theorem choose_creates {choice : ComponentMap × Decision String} {s s' : Session σ}
    (h : d.choose setup s = .ok choice s') :
    ∃ factory count s₁, d.prepare setup s = .ok (factory, count) s₁ ∧
      Action.snapshot setup.line s₁ = .ok choice.1 s' ∧ choice.2.result = d.newId choice.1 count ∧
      choice.2.posting.place = factory ∧ choice.2.posting.form.get? "id" = some choice.2.result ∧
      choice.2.posting.form.get? "factoryPid" = some factory := by
  obtain ⟨factory, count, s₁, hprepare, hsnapshot, hcreating⟩ := choose_eq_ok h
  obtain ⟨hresult, hplace, hid, hfactory⟩ := Decision.creating_eq_ok hcreating
  have hconfiguration : (d.configuration factory (d.newId choice.1 count)).id = d.newId choice.1 count ∧
      (d.configuration factory (d.newId choice.1 count)).factory = factory := by
    cases d <;> exact ⟨rfl, rfl⟩
  rw [hconfiguration.1] at hresult hid
  rw [hconfiguration.2] at hplace hfactory
  exact ⟨factory, count, s₁, hprepare, hsnapshot, hresult, hplace, hresult ▸ hid, hfactory⟩

/-- What is settled behind a survey is settled in view of the installation that was surveyed. -/
private theorem settled_eq_ok {settle : Installation → Except Failure String} {count : Installation → Nat}
    {r : String × Nat} {s s' : Session σ}
    (h : (do
      let i ← Action.survey setup
      let factory ← Action.ofExcept (settle i)
      return (factory, count i) : Action σ (String × Nat)) s = .ok r s') :
    ∃ i, Action.survey setup s = .ok i s' ∧ settle i = .ok r.1 := by
  obtain ⟨i, s₁, hsurvey, hrest⟩ := Action.bind_eq_ok h
  obtain ⟨f, s₂, hadmit, hpure⟩ := Action.bind_eq_ok hrest
  obtain ⟨hfactory, rfl⟩ := Action.ofExcept_eq_ok hadmit
  obtain ⟨rfl, rfl⟩ := Action.pure_eq_ok hpure
  exact ⟨i, hsurvey, hfactory⟩

/-- An inverter is admitted in view of the installation that was surveyed. -/
theorem prepare_inverter_eq_ok {brand : String} {settings : InverterSettings} {factory : String} {count : Nat}
    {s s' : Session σ} (h : (inverter brand settings).prepare setup s = .ok (factory, count) s') :
    ∃ i, Action.survey setup s = .ok i s' ∧ i.admitInverter brand settings = .ok factory :=
  settled_eq_ok h

/-- A meter is admitted in view of the installation that was surveyed. -/
theorem prepare_meter_eq_ok {brand : String} {settings : MeterSettings} {factory : String} {count : Nat}
    {s s' : Session σ} (h : (meter brand settings).prepare setup s = .ok (factory, count) s') :
    ∃ i, Action.survey setup s = .ok i s' ∧ i.admitMeter brand settings = .ok factory :=
  settled_eq_ok h

/-- The factory is that of the brand that is asked for. -/
theorem prepare_eq_ok {factory : String} {count : Nat} {s s' : Session σ}
    (h : d.prepare setup s = .ok (factory, count) s') : setup.catalog.factoryOf d.category d.brand = .ok factory := by
  cases d with
  | inverter brand settings =>
    obtain ⟨i, hsurvey, hfactory⟩ := prepare_inverter_eq_ok h
    rw [← (Action.survey_eq_ok hsurvey).1]
    exact Installation.factoryOf_of_admitInverter hfactory
  | meter brand settings =>
    obtain ⟨i, hsurvey, hfactory⟩ := prepare_meter_eq_ok h
    rw [← (Action.survey_eq_ok hsurvey).1]
    exact Installation.factoryOf_of_admitMeter hfactory
  | storage brand settings =>
    obtain ⟨f, s₁, hfactory, hpure⟩ := Action.bind_eq_ok h
    cases (Action.pure_eq_ok hpure).1
    exact (Action.ofExcept_eq_ok hfactory).1

theorem onlyReads_choose (setup : Setup σ) (d : NewDevice) : (d.choose setup).OnlyReads := by
  have hofExcept : ∀ {α : Type} (r : Except Failure α), (Action.ofExcept r : Action σ α).OnlyReads :=
    fun r => (Action.silent_ofExcept r).onlyReads
  have hpure : ∀ {α : Type} (x : α), (pure x : Action σ α).OnlyReads := fun x => (Action.silent_pure x).onlyReads
  have hsurvey := Action.onlyReads_survey setup
  have hprepare : (d.prepare setup).OnlyReads := by
    cases d with
    | inverter => exact hsurvey.bind fun i => (hofExcept _).bind fun factory => hpure _
    | meter => exact hsurvey.bind fun i => (hofExcept _).bind fun factory => hpure _
    | storage => exact (hofExcept _).bind fun factory => hpure _
  exact hprepare.bind fun a => (Action.silent_snapshot setup.line).onlyReads.bind fun components =>
    (hofExcept _).bind fun decision => hpure _

/-! ### What is written -/

/-- Adding a device takes the course of its choice: without one nothing is written, and otherwise its posting is carried
out and its id is told. -/
theorem add_course (setup : Setup σ) (d : NewDevice) (s : Session σ) :
    ∃ es, ((d.add setup).after s).log = s.log ++ es ∧
      ((∃ f s', d.choose setup s = .error f s' ∧ (d.add setup).outcome s = .error f ∧ ∀ e ∈ es, e.isRead) ∨
        ∃ choice s', d.choose setup s = .ok choice s' ∧
          Course (choice.2.posting.SentAs setup) ((d.add setup).outcome s) es ∧
          ∀ id, (d.add setup).outcome s = .ok id → id = choice.2.result) := by
  obtain ⟨reads, hlog, hreads⟩ := onlyReads_choose setup d s
  rw [add_eq]
  rcases hchoose : d.choose setup s with ⟨choice, s'⟩ | ⟨f, s'⟩
  · obtain ⟨houtcome, hafter⟩ := Action.run_bind_of_ok hchoose fun choice => Action.carryOut setup choice.2
    obtain ⟨es, hlog', hcourse⟩ := Action.adds_carryOut setup choice.2 s'
    rw [(Action.outcome_eq_ok hchoose).2] at hlog
    rw [houtcome, hafter]
    refine ⟨reads ++ es, by rw [hlog', hlog, List.append_assoc], .inr ⟨choice, s', rfl, ?_, fun id hid => ?_⟩⟩
    · exact hcourse.behind_reads hreads
    · obtain ⟨s'', hok⟩ := Action.exists_of_outcome_eq_ok hid
      exact Action.carryOut_eq_ok hok
  · have hrun := Action.bind_of_error hchoose fun choice => Action.carryOut setup choice.2
    rw [(Action.outcome_eq_error hchoose).2] at hlog
    refine ⟨reads, ?_, .inl ⟨f, s', rfl, (Action.outcome_eq_error hrun).1, hreads⟩⟩
    rw [(Action.outcome_eq_error hrun).2, hlog]

/-- A device that is added writes nothing but the posting that was chosen.  If it is told an id, that posting was done
and the id is the one that was chosen. -/
theorem add_writes (setup : Setup σ) (d : NewDevice) (s : Session σ) :
    ∃ es, ((d.add setup).after s).log = s.log ++ es ∧
      (∀ e ∈ es, e.isWrite →
        ∃ choice s', d.choose setup s = .ok choice s' ∧ choice.2.posting.SentAs setup e) ∧
      ∀ id, (d.add setup).outcome s = .ok id →
        ∃ choice s', d.choose setup s = .ok choice s' ∧ choice.2.result = id ∧
          ∃ e ∈ es, e.isDonePosting ∧ choice.2.posting.SentAs setup e := by
  obtain ⟨es, hlog, ⟨f, s', hchoose, hfails, hreads⟩ | ⟨choice, s', hchoose, hcourse, hresult⟩⟩ := d.add_course setup s
  · refine ⟨es, hlog, fun e he hw => ?_, fun id hid => ?_⟩
    · rw [Exchange.isWrite_of_isRead (hreads e he)] at hw
      cases hw
    · rw [hfails] at hid
      cases hid
  · refine ⟨es, hlog, fun e he hw => ⟨choice, s', hchoose, hcourse.of_isWrite he hw⟩, fun id hid => ?_⟩
    have hid' := (hresult id hid).symm
    rw [hid] at hcourse
    cases hcourse with
    | @done before e e' _ _ hsent hdone _ => exact ⟨choice, s', hchoose, hid', e, by simp, hdone, hsent⟩

end NewDevice

end EnergyGateway
