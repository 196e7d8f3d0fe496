import EnergyGateway.Proofs.Inventory.Free
import EnergyGateway.Proofs.Session.Room
import EnergyGateway.Simulation.Line

/-!
# Ports that are configured

A serial bridge is created only for a port of the catalog whose key no live and listed bridge uses, as its id or as its
alias (`addSerialPort_port`).  Any other key is refused, and nothing is posted.

So only a component that the inventory does not know is in the way: a bridge that is live but not listed, or a component
of another factory under the key of the port.  The bridge is created over either (`not_forall_created_port_absent`).
-/

namespace EnergyGateway

namespace Installation

/-- The catalog has a port with the key, and no live and listed bridge uses it. -/
def AdmitsPort (i : Installation) (key : String) : Prop :=
  (∃ port ∈ i.catalog.ports, port.key = key) ∧
    ∀ id c, i.components.get? id = some c → i.catalog.covers .serialPort c.factory → id ∉ i.unlisted .serialPort →
      ¬c.Uses id key

variable {i : Installation} {key : String} {line : LineSettings}

/-- What is told of a key that no bridge can be created for. -/
def portRefusal (key : String) : Failure :=
  .invalidValue ⟨"template", s!"port template '{key}' is unknown or already configured"⟩

/-- There is a free port with the key exactly if the key is admitted. -/
theorem freePort_cases (i : Installation) (key : String) :
    (i.AdmitsPort key ∧ ∃ port, i.freePort key = .ok port ∧ port.key = key) ∨
      (¬i.AdmitsPort key ∧ i.freePort key = .error (portRefusal key)) := by
  have hsome (port : PortTemplate) :
      (Inventory.freePorts i.catalog (i.devices .serialPort)).find? (·.key == key) = some port ↔
        i.catalog.port? key = some port ∧ ∀ id c, i.components.get? id = some c →
          i.catalog.covers .serialPort c.factory → id ∉ i.unlisted .serialPort → ¬c.Uses id key := by
    rw [Inventory.find?_freePorts_eq_some_iff, i.forall_devices_iff (P := fun id c => ¬c.Uses id key)]
  unfold freePort
  split
  · rename_i port hport
    obtain ⟨hcatalog, hfree⟩ := (hsome port).1 hport
    have hport := Catalog.mem_of_port? hcatalog
    exact .inl ⟨⟨⟨port, hport⟩, hfree⟩, port, rfl, hport.2⟩
  · rename_i hnone
    refine .inr ⟨fun ⟨⟨port, hmem, hkey⟩, hfree⟩ => ?_, rfl⟩
    rcases hcatalog : i.catalog.port? key with _ | found
    · exact List.find?_eq_none.1 hcatalog port hmem (beq_iff_eq.2 hkey)
    · rw [(hsome found).2 ⟨hcatalog, hfree⟩] at hnone
      cases hnone

theorem addSerialPort_eq_ok {d : Decision String} (h : i.addSerialPort key line = .ok d) :
    i.AdmitsPort key ∧ d.result = key ∧ d.posting.place = Configuration.serialFactory ∧
      d.posting.form.get? "id" = some key ∧ d.posting.form.get? "factoryPid" = some Configuration.serialFactory := by
  obtain ⟨port, hport, hcreating⟩ := exists_of_bind_eq_ok h
  rcases i.freePort_cases key with ⟨hadmits, port', hport', hkey⟩ | ⟨-, hrefused⟩
  · cases hport.symm.trans hport'
    rw [← hkey]
    exact ⟨hkey ▸ hadmits, Decision.creating_eq_ok hcreating⟩
  · rw [hrefused] at hport
    cases hport

theorem addSerialPort_eq_error (h : ¬i.AdmitsPort key) : i.addSerialPort key line = .error (portRefusal key) := by
  rcases i.freePort_cases key with ⟨hadmits, -⟩ | ⟨-, hrefused⟩
  · exact absurd hadmits h
  · unfold addSerialPort
    rw [hrefused]
    rfl

end Installation

namespace Action

variable {σ : Type}

/-- A bridge is created only under the key of a port of the catalog that no live and listed bridge uses.  Any other key
is refused, and nothing is posted. -/
theorem addSerialPort_port (setup : Setup σ) (key : String) (line : LineSettings) (s : Session σ) :
    ∃ es, ((addSerialPort setup key line).after s).log = s.log ++ es ∧
      (∀ e ∈ es, e.isWrite → ∃ i s' p, survey setup s = .ok i s' ∧ i.IsSeen setup s' ∧ Posting.SentAs setup p e ∧
        p.place = Configuration.serialFactory ∧ p.form.get? "id" = some key ∧ i.AdmitsPort key) ∧
      ∀ i s', survey setup s = .ok i s' → ¬i.AdmitsPort key →
        (addSerialPort setup key line).outcome s = .error (Installation.portRefusal key) ∧
          ∀ e ∈ es, e.isWrite = false := by
  obtain ⟨es, hlog, hwrites, hrefused⟩ := change_writes setup (·.addSerialPort key line) s
  refine ⟨es, hlog, fun e he hw => ?_, fun i s' hsurvey hnot => ?_⟩
  · obtain ⟨i, s', d, hsurvey, hdecide, hsent⟩ := hwrites e he hw
    obtain ⟨hadmits, -, hplace, hid, -⟩ := Installation.addSerialPort_eq_ok hdecide
    exact ⟨i, s', d.posting, hsurvey, survey_eq_ok hsurvey, hsent, hplace, hid, hadmits⟩
  · exact hrefused i s' _ hsurvey (Installation.addSerialPort_eq_error hnot)

end Action

/-! ### A port that is taken -/

/-- A component of a factory is live under the key of a port, and the page lists nothing. -/
private def takenPort (factory : String) : Session Simulation where
  remote := { server := { routes :=
    [{ method := "GET", path := "*", body := "var configData = \x7b\"pids\":[]\x7d;" }] } }
  store := { snapshot := some (.ofList [("modbus0", { factory })]) }

/-- A bridge is created over a live component: over one of another factory even where all bridges are listed, and over a
bridge that is not listed. -/
theorem not_forall_created_port_absent :
    (¬ ∀ (setup : Setup Simulation) (key : String) (line : LineSettings) (s : Session Simulation) (es : List Exchange),
      ((Action.addSerialPort setup key line).after s).log = s.log ++ es → ∀ e ∈ es, e.isWrite →
        ∀ i s', Action.survey setup s = .ok i s' → i.unlisted .serialPort = [] → i.components.contains key = false) ∧
    ¬ ∀ (setup : Setup Simulation) (key : String) (line : LineSettings) (s : Session Simulation) (es : List Exchange),
      ((Action.addSerialPort setup key line).after s).log = s.log ++ es → ∀ e ∈ es, e.isWrite →
        ∀ i s', Action.survey setup s = .ok i s' → ∀ id c, i.components.get? id = some c →
          i.catalog.covers .serialPort c.factory → ¬c.Uses id key := by
  let setup := Simulation.setup .bundled
  constructor
  · intro habsent
    have hany : ((Action.addSerialPort setup "modbus0" {}).after (takenPort "Bridge.Modbus.Tcp")).log.any (·.isWrite) := by
      decide +kernel
    have hfound : ((Action.survey setup).outcome (takenPort "Bridge.Modbus.Tcp")).toOption.any fun i =>
        i.unlisted .serialPort == [] && i.components.contains "modbus0" := by
      decide +kernel
    obtain ⟨i, s', hsurvey, hlive⟩ := Action.exists_survey_of_any hfound
    rw [Bool.and_eq_true, beq_iff_eq] at hlive
    obtain ⟨e, he, hw⟩ := List.any_eq_true.1 hany
    have hfree := habsent setup "modbus0" {} (takenPort "Bridge.Modbus.Tcp") _ (List.nil_append _).symm e he hw i s' hsurvey
      hlive.1
    rw [hfree] at hlive
    cases hlive.2
  · intro hunused
    have hany : ((Action.addSerialPort setup "modbus0" {}).after (takenPort Configuration.serialFactory)).log.any
        (·.isWrite) := by
      decide +kernel
    have hfound : ((Action.survey setup).outcome (takenPort Configuration.serialFactory)).toOption.any fun i =>
        (i.components.get? "modbus0").any fun c => i.catalog.covers .serialPort c.factory := by
      decide +kernel
    obtain ⟨i, s', hsurvey, hlive⟩ := Action.exists_survey_of_any hfound
    obtain ⟨c, hc, hcovers⟩ := (Option.any_eq_true _ _).1 hlive
    obtain ⟨e, he, hw⟩ := List.any_eq_true.1 hany
    exact hunused setup "modbus0" {} (takenPort Configuration.serialFactory) _ (List.nil_append _).symm e he hw i s' hsurvey
      "modbus0" c hc hcovers (.inl rfl)

end EnergyGateway
