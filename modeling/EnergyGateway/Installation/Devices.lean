import EnergyGateway.Installation.Basic

/-!
# Changes of devices

Devices of all categories are deleted alike.  A bridge is created for a port that is still free, an inverter
within the limits of the tier, a meter for a role that no meter has yet.  New devices get the lowest free id of
their kind.
-/

namespace EnergyGateway

/-- What an operator sets on an inverter. -/
structure InverterSettings where
  /-- Watts. -/
  ratedPower : UInt32
  bridge : String
  unit : UInt16

structure MeterSettings where
  label : String
  role : String
  bridge : String
  unit : UInt16
  invert : Bool

structure StorageSettings where
  label : String
  bridge : String
  unit : UInt16

namespace Installation

variable (i : Installation)

def deleteDevice (category : Category) (id : String) : Except Failure (Decision Unit) := do
  let device ← i.device category id
  return ⟨.deletion device.pid, ()⟩

/-! ### Serial bridges -/

/-- The port with this key, if it is free. -/
def freePort (key : String) : Except Failure PortTemplate :=
  match (Inventory.freePorts i.catalog (i.devices .serialPort)).find? (·.key == key) with
  | some port => .ok port
  | none => .error (.invalidValue ⟨"template", s!"port template '{key}' is unknown or already configured"⟩)

def addSerialPort (key : String) (line : LineSettings) : Except Failure (Decision String) := do
  let port ← i.freePort key
  Decision.creating (.serialPort ⟨port.key, port.portName, line⟩)

/-- The name of the port that a bridge drives: its own, or else that of the port with its id. -/
def portName (bridge : ManagedDevice) : String :=
  ((bridge.component.text? "portName").or ((i.catalog.port? bridge.id).map PortTemplate.portName)).getD ""

def updateSerialPort (id : String) (line : LineSettings) : Except Failure (Decision Unit) := do
  let bridge ← i.device .serialPort id
  Decision.changing bridge (.serialPort ⟨id, i.portName bridge, line⟩)

/-! ### Inverters -/

/-- What the inverters use of the tier. -/
def usage : Usage Float := Inventory.usage i.catalog.activeTier (i.devices .inverter)

/-- A check of the tier. -/
def withinTier : Except (TierViolation Float) Unit → Except Failure Unit
  | .ok () => .ok ()
  | .error v => .error (.tier v)

/-- The factory of a new inverter, if the tier has room for it. -/
def admitInverter (brand : String) (s : InverterSettings) : Except Failure String := do
  withinTier (i.usage.checkAdd (Float.ofNat s.ratedPower.toNat))
  i.catalog.factoryOf .inverter brand

/-- The id that follows from the number of inverters, or the lowest free one if that is taken. -/
def newInverterId (components : ComponentMap) (count : Nat) : String :=
  let id := ComponentId.byCount count
  if components.contains id then ComponentId.next ComponentId.inverterStem components.keys else id

/-- A new inverter of a factory beside `count` others. -/
def addInverter (components : ComponentMap) (count : Nat) (factory : String) (s : InverterSettings) :
    Except Failure (Decision String) :=
  Decision.creating (.inverter ⟨factory, newInverterId components count, s.ratedPower, s.bridge, s.unit⟩)

def updateInverter (id : String) (s : InverterSettings) : Except Failure (Decision Unit) := do
  let inverter ← i.device .inverter id
  withinTier (i.usage.checkUpdate inverter.component.ratedPower (Float.ofNat s.ratedPower.toNat))
  Decision.changing inverter (.inverter ⟨inverter.component.factory, id, s.ratedPower, s.bridge, s.unit⟩)

/-! ### Meters -/

/-- A role that is free, or that the meter being edited has. -/
def requireRole (role : String) (editing : Option String) : Except Failure Unit :=
  if (Inventory.freeRoles i.catalog (i.devices .meter) editing).any (·.value == role) then .ok ()
  else .error (.invalidValue ⟨"type", s!"meter type '{role}' is unknown or already used"⟩)

/-- The factory of a new meter, if its role is free. -/
def admitMeter (brand : String) (s : MeterSettings) : Except Failure String := do
  i.requireRole s.role none
  i.catalog.factoryOf .meter brand

/-- A new meter of a factory. -/
def addMeter (components : ComponentMap) (factory : String) (s : MeterSettings) :
    Except Failure (Decision String) :=
  let id := ComponentId.next ComponentId.meterStem components.keys
  Decision.creating (.meter ⟨factory, id, s.label, s.role, s.bridge, s.unit, s.invert⟩)

def updateMeter (id : String) (s : MeterSettings) : Except Failure (Decision Unit) := do
  let meter ← i.device .meter id
  i.requireRole s.role (meter.component.text? "type")
  Decision.changing meter (.meter ⟨meter.component.factory, id, s.label, s.role, s.bridge, s.unit, s.invert⟩)

/-! ### Storage -/

/-- A new storage system of a factory, whose id the snapshot alone decides. -/
def addStorage (components : ComponentMap) (factory : String) (s : StorageSettings) :
    Except Failure (Decision String) :=
  let id := ComponentId.next ComponentId.storageStem components.keys
  Decision.creating (.storage ⟨factory, id, s.label, s.bridge, s.unit⟩)

def updateStorage (id : String) (s : StorageSettings) : Except Failure (Decision Unit) := do
  let storage ← i.device .storage id
  Decision.changing storage (.storage ⟨storage.component.factory, id, s.label, s.bridge, s.unit⟩)

end Installation

end EnergyGateway
