import EnergyGateway.SerialLine

/-!
# Configurations

The configurations that the console creates and changes, one kind for each family of devices, for the controller
of the power limit and for the account.  In JSON a configuration names its kind beside its fields, or in front
of them if it is an array.
-/

namespace EnergyGateway

/-- A serial bridge.  Its id and alias are the key of the port. -/
structure SerialPort where
  id : String
  portName : String
  line : LineSettings
  deriving DecidableEq, Repr

structure Inverter where
  factory : String
  id : String
  /-- Watts. -/
  ratedPower : UInt32
  bridge : String
  unit : UInt16
  deriving DecidableEq, Repr

structure Meter where
  factory : String
  id : String
  label : String
  /-- What is metered. -/
  role : String
  bridge : String
  unit : UInt16
  invert : Bool
  deriving DecidableEq, Repr

structure Storage where
  factory : String
  id : String
  label : String
  bridge : String
  unit : UInt16
  deriving DecidableEq, Repr

/-- The controller that limits all inverters together. -/
structure LimitController where
  id : String
  label : String
  enabled : Bool
  /-- Watts. -/
  limit : UInt64
  inverters : List String
  deriving DecidableEq, Repr

/-- The account of the operator.  Its alias holds the digest of the password. -/
structure Account where
  passwordDigest : String
  deriving DecidableEq, Repr

inductive Configuration where
  | serialPort (c : SerialPort)
  | inverter (c : Inverter)
  | meter (c : Meter)
  | storage (c : Storage)
  | limitController (c : LimitController)
  | account (c : Account)
  deriving DecidableEq, Repr

namespace Configuration

def serialFactory : String := "Bridge.Modbus.Serial"
def limitFactory : String := "Controller.PvInverter.FixPowerLimit"
def limitId : String := "ctrlPvInverterFixPowerLimit0"
def accountFactory : String := "Controller.io.openems.edge.account.config"
def accountId : String := "admin"

/-- The factory that creates the component. -/
def factory : Configuration → String
  | .serialPort _ => serialFactory
  | .inverter c => c.factory
  | .meter c => c.factory
  | .storage c => c.factory
  | .limitController _ => limitFactory
  | .account _ => accountFactory

/-- The id of the component on the edge. -/
def id : Configuration → String
  | .serialPort c => c.id
  | .inverter c => c.id
  | .meter c => c.id
  | .storage c => c.id
  | .limitController c => c.id
  | .account _ => accountId

def label : Configuration → String
  | .serialPort c => c.id
  | .inverter c => c.id
  | .meter c => c.label
  | .storage c => c.label
  | .limitController c => c.label
  | .account c => c.passwordDigest

/-! ### JSON -/

def json : Configuration → Json
  | .serialPort c =>
    .object [("kind", .string "serialPort"), ("id", .string c.id), ("portName", .string c.portName),
      ("baudRate", .nat c.line.baudRate.toNat), ("databits", .nat c.line.databits.toNat),
      ("stopbits", .string c.line.stopbits.word), ("parity", .string c.line.parity.word)]
  | .inverter c =>
    .object [("kind", .string "inverter"), ("factoryId", .string c.factory), ("id", .string c.id),
      ("maxActivePowerW", .nat c.ratedPower.toNat), ("modbusId", .string c.bridge), ("modbusUnitId", .nat c.unit.toNat)]
  | .meter c =>
    .object [("kind", .string "meter"), ("factoryId", .string c.factory), ("id", .string c.id),
      ("alias", .string c.label), ("meterType", .string c.role), ("modbusId", .string c.bridge),
      ("modbusUnitId", .nat c.unit.toNat), ("invert", .bool c.invert)]
  | .storage c =>
    .object [("kind", .string "storage"), ("factoryId", .string c.factory), ("id", .string c.id),
      ("alias", .string c.label), ("modbusId", .string c.bridge), ("modbusUnitId", .nat c.unit.toNat)]
  | .limitController c =>
    .object [("kind", .string "fixPowerLimit"), ("id", .string c.id), ("alias", .string c.label),
      ("enabled", .bool c.enabled), ("powerLimitW", .nat c.limit.toNat),
      ("inverterIds", .array (c.inverters.map .string))]
  | .account c => .object [("kind", .string "account"), ("passwordHash", .string c.passwordDigest)]

def byte (d : Document) : Option UInt8 := (d.natural 255).map UInt8.ofNat
def short (d : Document) : Option UInt16 := (d.natural 65535).map UInt16.ofNat
def medium (d : Document) : Option UInt32 := (d.natural 4294967295).map UInt32.ofNat
def long (d : Document) : Option UInt64 := (d.natural Text.wordMax).map UInt64.ofNat

def readSerialPort (d : Document) : Option SerialPort := do
  let r ← d.closedRecord? ["id", "portName", "baudRate", "databits", "stopbits", "parity"]
  return {
    id := ← r.required "id" Document.text
    portName := ← r.required "portName" Document.text
    line := {
      baudRate := ← r.required "baudRate" medium
      databits := ← r.required "databits" byte
      stopbits := ← r.required "stopbits" (Document.choice StopBits.ofWord?)
      parity := ← r.required "parity" (Document.choice Parity.ofWord?) } }

def readInverter (d : Document) : Option Inverter := do
  let r ← d.closedRecord? ["factoryId", "id", "maxActivePowerW", "modbusId", "modbusUnitId"]
  return {
    factory := ← r.required "factoryId" Document.text
    id := ← r.required "id" Document.text
    ratedPower := ← r.required "maxActivePowerW" medium
    bridge := ← r.required "modbusId" Document.text
    unit := ← r.required "modbusUnitId" short }

def readMeter (d : Document) : Option Meter := do
  let r ← d.closedRecord? ["factoryId", "id", "alias", "meterType", "modbusId", "modbusUnitId", "invert"]
  return {
    factory := ← r.required "factoryId" Document.text
    id := ← r.required "id" Document.text
    label := ← r.required "alias" Document.text
    role := ← r.required "meterType" Document.text
    bridge := ← r.required "modbusId" Document.text
    unit := ← r.required "modbusUnitId" short
    invert := ← r.required "invert" Document.boolean }

def readStorage (d : Document) : Option Storage := do
  let r ← d.closedRecord? ["factoryId", "id", "alias", "modbusId", "modbusUnitId"]
  return {
    factory := ← r.required "factoryId" Document.text
    id := ← r.required "id" Document.text
    label := ← r.required "alias" Document.text
    bridge := ← r.required "modbusId" Document.text
    unit := ← r.required "modbusUnitId" short }

def readLimitController (d : Document) : Option LimitController := do
  let r ← d.closedRecord? ["id", "alias", "enabled", "powerLimitW", "inverterIds"]
  return {
    id := ← r.required "id" Document.text
    label := ← r.required "alias" Document.text
    enabled := ← r.required "enabled" Document.boolean
    limit := ← r.required "powerLimitW" long
    inverters := ← r.required "inverterIds" (Document.list Document.text) }

def readAccount (d : Document) : Option Account := do
  let r ← d.closedRecord? ["passwordHash"]
  return ⟨← r.required "passwordHash" Document.text⟩

/-- The kind, and the record without it. -/
def tagged? : Document → Option (String × Document)
  | .object members =>
    match members.filter (·.1 == "kind") with
    | [(_, .string kind)] => some (kind, .object (members.filter (·.1 != "kind")))
    | _ => none
  | .array (.string kind :: rest) => some (kind, .array rest)
  | _ => none

/-- Read a configuration.  Its members are collected before its kind is known, so each of them must have a
value, also one that the kind does not declare. -/
def read (d : Document) : Option Configuration := do
  let _ ← d.value?
  let (kind, body) ← tagged? d
  match kind with
  | "serialPort" => (readSerialPort body).map .serialPort
  | "inverter" => (readInverter body).map .inverter
  | "meter" => (readMeter body).map .meter
  | "storage" => (readStorage body).map .storage
  | "fixPowerLimit" => (readLimitController body).map .limitController
  | "account" => (readAccount body).map .account
  | _ => none

end Configuration

end EnergyGateway
