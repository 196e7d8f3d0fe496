import EnergyGateway.Catalog
import EnergyGateway.Component

/-!
# Overview of an installation

What is configured on the edge, on one screen: how many devices of each category, their power, and how the serial
bridges are set.
-/

namespace EnergyGateway

/-- A serial bridge in short: `9600-8N1` behind the name of the port. -/
def serialSummary (name : String) (c : Component) : String :=
  let parity := ((c.text? "parity").bind (·.toList.head?)).getD 'N'
  let stopbits := match c.text? "stopbits" with
    | none => "1"
    | some s => if s = "ONE" then "1" else if s = "TWO" then "2" else "1.5"
  let baudRate := (c.text? "baudRate").getD ""
  let databits := (c.text? "databits").getD ""
  s!"{name}: {baudRate}-{databits}{parity}{stopbits}"

structure Status where
  serialNumber : String
  tier : Tier Float
  serialPorts : List String
  inverterCount : Nat
  /-- Kilowatts. -/
  inverterPower : Float
  meterCount : Nat
  /-- The meter at the grid connection. -/
  gridMeter : Option String
  storageCount : Nat

namespace Status

/-- The role of the meter at the grid connection. -/
def gridRole : String := "GRID"

/-- The components of a category with their ids. -/
def inCategory (components : ComponentMap) (catalog : Catalog) (category : Category) : List (String × Component) :=
  components.entries.filter fun (_, c) => catalog.covers category c.factory

def ofSnapshot (components : ComponentMap) (catalog : Catalog) : Status :=
  let inverters := inCategory components catalog .inverter
  let meters := inCategory components catalog .meter
  { serialNumber := catalog.serialNumber.getD "N/A"
    tier := catalog.activeTier
    serialPorts := (inCategory components catalog .serialPort).map fun (id, c) =>
      serialSummary ((catalog.port? id).elim id PortTemplate.displayName) c
    inverterCount := inverters.length
    inverterPower := (inverters.foldl (fun total (_, c) => total + c.ratedPower) 0) / 1000
    meterCount := meters.length
    gridMeter := (meters.find? fun (_, c) => c.text? "type" == some gridRole).map fun (id, c) => c.displayName id
    storageCount := (inCategory components catalog .storage).length }

def json (s : Status) : Json :=
  .object [("serialNumber", .string s.serialNumber), ("tier", s.tier.json),
    ("serialPorts", .array (s.serialPorts.map .string)), ("inverterCount", .nat s.inverterCount),
    ("totalInverterPowerKw", .float s.inverterPower), ("meterCount", .nat s.meterCount),
    ("poiMeter", .ofOption .string s.gridMeter), ("storageCount", .nat s.storageCount)]

/-- The screen. -/
def screen (s : Status) : String :=
  let ports := if s.serialPorts.isEmpty then "none" else ", ".intercalate s.serialPorts
  let limit := Decimal.plain s.tier.maxPower
  let gridMeter := s.gridMeter.getD "Not Set"
  s!"Serial number: {s.serialNumber}\n" ++
  s!"Tier:          {s.tier.maxInverters} inverters / {limit} kW\n" ++
  s!"Serial ports:  {ports}\n" ++
  s!"Inverters:     {s.inverterCount} ({Decimal.fixed 1 s.inverterPower} kW)\n" ++
  s!"Meters:        {s.meterCount} (POI: {gridMeter})\n" ++
  s!"Storage:       {s.storageCount}\n"

end Status

end EnergyGateway
