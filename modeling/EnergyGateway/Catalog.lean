import EnergyGateway.Configuration.Basic
import EnergyGateway.Tier

/-!
# The device catalog

The catalog tells which devices an installation may have: the brands of each category with their factories, the
kinds of meters, the serial ports of the box and the tiers.  A component belongs to a category by its factory.
-/

namespace EnergyGateway

structure Brand where
  name : String
  factory : String
  deriving DecidableEq, Repr

structure InverterSetup where
  currentTier : String
  tiers : KeyMap (Tier Float)
  brands : List Brand

/-- What a meter may measure, and how that is shown. -/
structure MeterRole where
  value : String
  display : String
  deriving DecidableEq, Repr

/-- A serial port of the box. -/
structure PortTemplate where
  key : String
  displayName : String
  portName : String
  deriving DecidableEq, Repr

structure Catalog where
  serialNumber : Option String := none
  inverters : Option InverterSetup := none
  storageBrands : List Brand := []
  meterBrands : List Brand := []
  meterRoles : List MeterRole := []
  ports : List PortTemplate := []

/-- The families of devices that are managed. -/
inductive Category where
  | serialPort
  | inverter
  | meter
  | storage
  deriving DecidableEq, Repr

def Category.label : Category → String
  | .serialPort => "serial port"
  | .inverter => "inverter"
  | .meter => "meter"
  | .storage => "storage"

namespace Catalog

/-! ### JSON -/

def readBrand (d : Document) : Option Brand := do
  let r ← d.closedRecord? ["name", "factoryId"]
  return ⟨← r.required "name" Document.text, ← r.required "factoryId" Document.text⟩

def readBrands (r : Fields) (name : String) : Option (List Brand) := r.withDefault name (Document.list readBrand) []

def readInverterSetup (d : Document) : Option InverterSetup := do
  let r ← d.closedRecord? ["currentTier", "tiers", "inverterBrands"]
  return {
    currentTier := ← r.withDefault "currentTier" Document.text ""
    tiers := ← r.withDefault "tiers" (Document.map Tier.read) .empty
    brands := ← readBrands r "inverterBrands" }

def readMeterRole (d : Document) : Option MeterRole := do
  let r ← d.closedRecord? ["value", "display"]
  return ⟨← r.required "value" Document.text, ← r.required "display" Document.text⟩

def readPort (d : Document) : Option PortTemplate := do
  let r ← d.closedRecord? ["key", "displayName", "portName"]
  return ⟨← r.required "key" Document.text, ← r.required "displayName" Document.text,
    ← r.required "portName" Document.text⟩

def readSerialNumber (d : Document) : Option (Option String) := do
  (← d.closedRecord? ["serialNumber"]).optional "serialNumber" Document.text

def readStorageBrands (d : Document) : Option (List Brand) := do
  readBrands (← d.closedRecord? ["storageBrands"]) "storageBrands"

def readMeterSetup (d : Document) : Option (List Brand × List MeterRole) := do
  let r ← d.closedRecord? ["meterBrands", "meterTypes"]
  return (← readBrands r "meterBrands", ← r.withDefault "meterTypes" (Document.list readMeterRole) [])

def read (d : Document) : Option Catalog := do
  let r ← d.closedRecord? ["systemInfo", "inverterSetup", "storageSetup", "meterSetup", "serialPortTemplates"]
  let (meterBrands, meterRoles) ← r.withDefault "meterSetup" readMeterSetup ([], [])
  return {
    serialNumber := ← r.withDefault "systemInfo" readSerialNumber none
    inverters := ← r.optional "inverterSetup" readInverterSetup
    storageBrands := ← r.withDefault "storageSetup" readStorageBrands []
    meterBrands := meterBrands
    meterRoles := meterRoles
    ports := ← r.withDefault "serialPortTemplates" (Document.list readPort) [] }

def brandJson (b : Brand) : Json := .object [("name", .string b.name), ("factoryId", .string b.factory)]

def meterRoleJson (m : MeterRole) : Json := .object [("value", .string m.value), ("display", .string m.display)]

def portJson (p : PortTemplate) : Json :=
  .object [("key", .string p.key), ("displayName", .string p.displayName), ("portName", .string p.portName)]

def inverterSetupJson (s : InverterSetup) : Json :=
  .object [("currentTier", .string s.currentTier),
    ("tiers", .object (s.tiers.entries.map fun (name, tier) => (name, tier.json))),
    ("inverterBrands", .array (s.brands.map brandJson))]

def json (c : Catalog) : Json :=
  .object [("systemInfo", .object [("serialNumber", .ofOption .string c.serialNumber)]),
    ("inverterSetup", .ofOption inverterSetupJson c.inverters),
    ("storageSetup", .object [("storageBrands", .array (c.storageBrands.map brandJson))]),
    ("meterSetup", .object [("meterBrands", .array (c.meterBrands.map brandJson)),
      ("meterTypes", .array (c.meterRoles.map meterRoleJson))]),
    ("serialPortTemplates", .array (c.ports.map portJson))]

/-! ### Queries -/

/-- The limits that are in force.  Where no tier is found, nothing may be added. -/
def activeTier (c : Catalog) : Tier Float :=
  (c.inverters.bind fun s => s.tiers.get? s.currentTier).getD .none

def inverterBrands (c : Catalog) : List Brand := c.inverters.elim [] InverterSetup.brands

def brands (c : Catalog) : Category → List Brand
  | .serialPort => []
  | .inverter => c.inverterBrands
  | .meter => c.meterBrands
  | .storage => c.storageBrands

/-- Whether the components of a factory belong to a category. -/
def covers (c : Catalog) (category : Category) (factory : String) : Bool :=
  match category with
  | .serialPort => factory == Configuration.serialFactory
  | _ => (c.brands category).any (·.factory == factory)

/-- The first brand with this factory or this name. -/
def findBrand? (c : Catalog) (category : Category) (needle : String) : Option Brand :=
  (c.brands category).find? fun b => b.factory == needle || Text.sameIgnoringCase b.name needle

/-- The brand of a factory, or the factory itself. -/
def brandName (c : Catalog) (category : Category) (factory : String) : String :=
  ((c.brands category).find? (·.factory == factory)).elim factory Brand.name

def port? (c : Catalog) (key : String) : Option PortTemplate := c.ports.find? (·.key == key)

/-- The catalog that comes with the console. -/
def bundled : Catalog where
  serialNumber := some "EC-0000-0001"
  inverters := some {
    currentTier := "standard"
    tiers := .ofList [("basic", ⟨2, 30⟩), ("standard", ⟨5, 100⟩), ("premium", ⟨20, 500⟩)]
    brands := [⟨"Fronius", "PV-Inverter.Fronius"⟩, ⟨"SMA", "PV-Inverter.SMA.SunnyTripower"⟩,
      ⟨"SolarEdge", "PV-Inverter.SolarEdge"⟩, ⟨"KACO", "PV-Inverter.KACO.blueplanet"⟩] }
  storageBrands := [⟨"BYD", "Ess.Byd.Battery-Box.Commercial"⟩, ⟨"Fenecon", "Fenecon.Home.Battery"⟩]
  meterBrands := [⟨"Socomec", "Meter.Socomec.Threephase"⟩, ⟨"Janitza", "Meter.Janitza.UMG96RME"⟩,
    ⟨"Carlo Gavazzi", "Meter.CarloGavazzi.EM300"⟩]
  meterRoles := [⟨"GRID", "Grid (POI)"⟩, ⟨"PRODUCTION", "Production"⟩, ⟨"CONSUMPTION_METERED", "Consumption"⟩]
  ports := [⟨"modbus0", "RS485-1", "/dev/ttyS1"⟩, ⟨"modbus1", "RS485-2", "/dev/ttyS2"⟩,
    ⟨"modbus2", "RS485-3", "/dev/ttyS3"⟩]

end Catalog

end EnergyGateway
