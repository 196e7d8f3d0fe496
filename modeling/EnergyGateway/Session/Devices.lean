import EnergyGateway.Installation.Devices
import EnergyGateway.Installation.Limit
import EnergyGateway.Session.Console
import EnergyGateway.Session.Snapshot

/-!
# Devices of a session

A change first looks at the installation, then decides, and posts what was decided.  Nothing is posted before
the decision, and once it was posted nothing else can fail: the session only gives the edge time to publish the
effect.
-/

namespace EnergyGateway.Action

variable {σ α : Type}

/-- Fail if the time for a first snapshot is up before there was one. -/
def checkTime (line : Line σ) : Action σ Unit := do
  if (← look line).snapshot.isNone && line.late (← get).remote then throw (.timeout Rpc.getConfig)

/-- Look at the installation: the list of configurations, and the snapshot.  A first snapshot is waited for while
the list is read, so that the time for it may be up before the list is there. -/
def survey (setup : Setup σ) : Action σ Installation := do
  let pause : Action σ Unit := do
    await setup.line
    checkTime setup.line
  let listings ← tryCatch (listings setup pause) fun f => do
    checkTime setup.line
    throw f
  return ⟨setup.catalog, listings, ← snapshot setup.line⟩

/-- Post what was decided. -/
def carryOut (setup : Setup σ) (d : Decision α) : Action σ α := do
  discard (post setup d.posting)
  settle setup
  return d.result

/-- Make a change that is decided from the installation. -/
def change (setup : Setup σ) (decide : Installation → Except Failure (Decision α)) : Action σ α := do
  let decision ← ofExcept (decide (← survey setup))
  carryOut setup decision

/-- The devices of a category that can be changed. -/
def inventory (setup : Setup σ) (category : Category) : Action σ (List ManagedDevice) := do
  return (← survey setup).devices category

def deleteDevice (setup : Setup σ) (category : Category) (id : String) : Action σ Unit :=
  change setup (·.deleteDevice category id)

def addSerialPort (setup : Setup σ) (key : String) (line : LineSettings) : Action σ String :=
  change setup (·.addSerialPort key line)

def updateSerialPort (setup : Setup σ) (id : String) (line : LineSettings) : Action σ Unit :=
  change setup (·.updateSerialPort id line)

/-- Add an inverter.  Its id is chosen from the snapshot as it is once the inverter is admitted. -/
def addInverter (setup : Setup σ) (brand : String) (s : InverterSettings) : Action σ String := do
  let i ← survey setup
  let factory ← ofExcept (i.admitInverter brand s)
  let count := (i.devices .inverter).length
  let decision ← ofExcept (Installation.addInverter (← snapshot setup.line) count factory s)
  carryOut setup decision

def updateInverter (setup : Setup σ) (id : String) (s : InverterSettings) : Action σ Unit :=
  change setup (·.updateInverter id s)

/-- Add a meter.  Its id is chosen from the snapshot as it is once the meter is admitted. -/
def addMeter (setup : Setup σ) (brand : String) (s : MeterSettings) : Action σ String := do
  let factory ← ofExcept ((← survey setup).admitMeter brand s)
  let decision ← ofExcept (Installation.addMeter (← snapshot setup.line) factory s)
  carryOut setup decision

def updateMeter (setup : Setup σ) (id : String) (s : MeterSettings) : Action σ Unit :=
  change setup (·.updateMeter id s)

/-- Add a storage system.  Storage has no limits, so the list of configurations is not needed. -/
def addStorage (setup : Setup σ) (brand : String) (s : StorageSettings) : Action σ String := do
  let factory ← ofExcept (setup.catalog.factoryOf .storage brand)
  let decision ← ofExcept (Installation.addStorage (← snapshot setup.line) factory s)
  carryOut setup decision

def updateStorage (setup : Setup σ) (id : String) (s : StorageSettings) : Action σ Unit :=
  change setup (·.updateStorage id s)

def powerLimit (setup : Setup σ) : Action σ LimitState := do
  return (← survey setup).limitState

/-- Set the limit for all inverters; tells it in watts. -/
def setPowerLimit (setup : Setup σ) (enabled : Bool) (setpoint : Setpoint Float) : Action σ UInt64 :=
  change setup (·.setLimit enabled setpoint)

end EnergyGateway.Action

namespace EnergyGateway

/-! ### Changes as data -/

/-- A change of devices that an operator can ask for. -/
inductive DeviceChange where
  | delete (category : Category) (id : String)
  | addSerialPort (key : String) (line : LineSettings)
  | updateSerialPort (id : String) (line : LineSettings)
  | addInverter (brand : String) (s : InverterSettings)
  | updateInverter (id : String) (s : InverterSettings)
  | addMeter (brand : String) (s : MeterSettings)
  | updateMeter (id : String) (s : MeterSettings)
  | addStorage (brand : String) (s : StorageSettings)
  | updateStorage (id : String) (s : StorageSettings)
  | setPowerLimit (enabled : Bool) (setpoint : Setpoint Float)

namespace DeviceChange

/-- What the operator is told: the id of a new device, the limit in watts, otherwise nothing. -/
def Result : DeviceChange → Type
  | addSerialPort .. | addInverter .. | addMeter .. | addStorage .. => String
  | setPowerLimit .. => UInt64
  | _ => Unit

/-- Make the change. -/
def perform {σ : Type} (setup : Setup σ) : (c : DeviceChange) → Action σ c.Result
  | delete category id => Action.deleteDevice setup category id
  | addSerialPort key line => Action.addSerialPort setup key line
  | updateSerialPort id line => Action.updateSerialPort setup id line
  | addInverter brand s => Action.addInverter setup brand s
  | updateInverter id s => Action.updateInverter setup id s
  | addMeter brand s => Action.addMeter setup brand s
  | updateMeter id s => Action.updateMeter setup id s
  | addStorage brand s => Action.addStorage setup brand s
  | updateStorage id s => Action.updateStorage setup id s
  | setPowerLimit enabled setpoint => Action.setPowerLimit setup enabled setpoint

end DeviceChange

end EnergyGateway
