import EnergyGateway.CommandLine.Command
import EnergyGateway.CommandLine.Watching
import EnergyGateway.Session.Devices
import EnergyGateway.Session.Login
import EnergyGateway.Session.Network
import EnergyGateway.Session.Tunnels
import EnergyGateway.Settings.Load

/-!
# Running commands

A command line is read before the settings, and the settings before the catalog; only then the edge and the
servers are asked.  What a command prints is printed when it has succeeded, except for one that watches: it prints while
it goes on.
-/

namespace EnergyGateway

/-! ### Texts -/

/-- One line: the limit, how much of the installed power that is, and whether it is in force. -/
def LimitState.line (l : LimitState) : String :=
  let force := if l.enabled then "enabled" else "disabled"
  let configured := if l.id.isNone then ", not configured" else ""
  s!"{Decimal.plain l.limit} W ({Decimal.fixed 1 l.percent}% of {Decimal.plain l.total} W), {force}{configured}\n"

/-- One line: how much of the tier is used. -/
def Usage.line (u : Usage Float) : String :=
  s!"{u.count}/{u.tier.maxInverters} inverters, {Decimal.fixed 1 u.power}/{Decimal.plain u.tier.maxPower} kW\n"

/-- One line: PID, factory and component. -/
def Listing.line (l : Listing) : String :=
  let factory := l.factory.getD "-"
  let label := l.label?.getD "-"
  s!"{l.pid}\t{factory}\t{label}\n"

def PortTemplate.line (p : PortTemplate) : String := s!"{p.key}\t{p.displayName}\t{p.portName}\n"

def MeterRole.line (r : MeterRole) : String := s!"{r.value}\t{r.display}\n"

/-- A value over several lines. -/
def Json.page (j : Json) : String := j.indented ++ "\n"

/-- The connections by their kind. -/
def connectionPage (cs : List Connection) : String :=
  String.join ([("Site-to-site", "site-to-site"), ("Remote access", "remote-access")].map fun (title, kind) =>
    title ++ ":\n" ++ String.join ((cs.filter (·.kind == some kind)).map Connection.line))

/-- The properties that the list of a category shows. -/
def Category.shown : Category → List String
  | .serialPort => ["portName", "baudRate", "databits", "stopbits", "parity"]
  | .inverter => ["maxActivePower", "modbus.id", "modbusUnitId"]
  | .meter => ["alias", "type", "modbus.id", "modbusUnitId", "invert"]
  | .storage => ["alias", "modbus.id", "modbusUnitId"]

/-! ### Commands -/

/-- What a command has printed, and whether it is done.  One that is not done goes on until it is interrupted. -/
structure Printed where
  text : String
  isDone : Bool := true

instance : Coe String Printed := ⟨fun text => { text }⟩

/-- Everything that commands run against. -/
structure Workplace (σ : Type) where
  settings : Settings
  files : Files
  setup : Setup σ
  /-- What the clock shows. -/
  time : String
  /-- How often a command waits that has no end of its own. -/
  patience : Nat := 1

namespace Workplace

variable {σ : Type} (w : Workplace σ)

/-- Wait and look, so many times at most. -/
def watchFor (count : Option Nat) : (waits : Nat) → Watching → Action σ Watching
  | 0, t => return t
  | waits + 1, t => do
    Action.await w.setup.line
    let t := { t with store := (← get).store }.look count w.time
    if t.isOver then return t else watchFor count waits t

/-- Print the snapshots that arrive. -/
def watch (count : Option Nat) : Action σ Printed := do
  let t ← w.watchFor count w.patience (.start (← get).store)
  return ⟨String.join (t.printed.map Update.line), t.isOver⟩

/-- Run a command; the result is what it prints. -/
def run (json : Bool) : Command → Action σ Printed
  | .status => (Action.status w.setup).map fun s => if json then s.json.page else s.screen
  | .components => (Action.snapshot w.setup.line).map fun c => (ComponentMap.json c).page
  | .listings => (Action.listings w.setup).map fun ls => String.join (ls.map Listing.line)
  | .watch count => w.watch count
  | .devices category => (Action.inventory w.setup category).map fun devices =>
    let lines := Inventory.lines w.setup.catalog category devices category.shown
    if category = .inverter then lines ++ (Inventory.usage w.setup.catalog.activeTier devices).line else lines
  | .deleteDevice category id => (Action.deleteDevice w.setup category id).map fun _ => s!"Deleted {id}\n"
  | .freePorts => (Action.inventory w.setup .serialPort).map fun devices =>
    String.join ((Inventory.freePorts w.setup.catalog devices).map PortTemplate.line)
  | .freeRoles => (Action.inventory w.setup .meter).map fun devices =>
    String.join ((Inventory.freeRoles w.setup.catalog devices none).map MeterRole.line)
  | .addSerialPort key line => (Action.addSerialPort w.setup key line).map fun id => s!"Created {id}\n"
  | .updateSerialPort id line => (Action.updateSerialPort w.setup id line).map fun _ => s!"Updated {id}\n"
  | .addInverter brand s => (Action.addInverter w.setup brand s).map fun id => s!"Created {id}\n"
  | .updateInverter id s => (Action.updateInverter w.setup id s).map fun _ => s!"Updated {id}\n"
  | .addMeter brand s => (Action.addMeter w.setup brand s).map fun id => s!"Created {id}\n"
  | .updateMeter id s => (Action.updateMeter w.setup id s).map fun _ => s!"Updated {id}\n"
  | .addStorage brand s => (Action.addStorage w.setup brand s).map fun id => s!"Created {id}\n"
  | .updateStorage id s => (Action.updateStorage w.setup id s).map fun _ => s!"Updated {id}\n"
  | .powerLimit => (Action.powerLimit w.setup).map fun l => l.line
  | .setPowerLimit enabled setpoint =>
    (Action.setPowerLimit w.setup enabled setpoint).map fun watts => s!"Power limit set to {watts.toNat} W\n"
  | .login user password =>
    let user := user.getD w.settings.edge.user
    (Action.login w.setup user (password.getD w.settings.edge.password)).map fun _ => s!"Logged in as {user}\n"
  | .changePassword current new => (Action.changePassword w.setup current new).map fun _ => "Password changed\n"
  | .interfaces => (Action.interfaces w.setup.line w.settings.networkServer).map fun is =>
    if json then (Json.array (is.map Interface.json)).page else String.join (is.map Interface.line)
  | .updateInterface id u =>
    (Action.updateInterface w.setup.line w.settings.networkServer id u).map fun i => s!"Updated {i.id}\n"
  | .connections => (Action.connections w.setup.line w.settings.tunnelServer).map fun cs =>
    if json then (Json.array (cs.map Connection.json)).page else connectionPage cs
  | .deleteConnection id =>
    (Action.deleteConnection w.setup.line w.settings.tunnelServer id).map fun _ => s!"Deleted {id}\n"
  | .certificates => (Action.certificates w.setup.line w.settings.tunnelServer).map fun cs =>
    String.join (cs.map Certificate.line)
  | .uploadCertificate path =>
    (Action.uploadFile w.setup.line w.settings.tunnelServer w.files path).map fun _ => s!"Uploaded {path}\n"

end Workplace

/-- Whether a command talks to the edge, and so needs the catalog. -/
def Command.needsEdge : Command → Bool
  | .interfaces | .updateInterface _ _ => false
  | .connections | .deleteConnection _ | .certificates | .uploadCertificate _ => false
  | _ => true

/-! ### Command lines -/

/-- Why a command line did not do what it asks for. -/
inductive Stop where
  | refused (r : CommandLine.Refusal)
  | settings (e : SettingsError)
  | catalog (e : CatalogError)
  | failed (f : Failure)

/-- Run a command line: what it prints, and the state of the other end afterwards. -/
def runCommandLine {σ : Type} (line : Line σ) (remote : σ) (files : Files) (env : String → Option String)
    (time : String) (words : List String) : Except Stop Printed × σ :=
  match CommandLine.parse words with
  | .error r => (.error (.refused r), remote)
  | .ok invocation =>
    match Settings.load files env invocation.settingsPath with
    | .error e => (.error (.settings e), remote)
    | .ok settings =>
      match if invocation.command.needsEdge then settings.catalog files else .ok .bundled with
      | .error e => (.error (.catalog e), remote)
      | .ok catalog =>
        let setup : Setup σ := ⟨line, settings.edge.id, settings.consoleServer, catalog⟩
        let start : Session σ := { remote }
        let workplace : Workplace σ := { settings, files, setup, time }
        match workplace.run invocation.json invocation.command start with
        | .ok printed s => (.ok printed, s.remote)
        | .error f s => (.error (.failed f), s.remote)

end EnergyGateway
