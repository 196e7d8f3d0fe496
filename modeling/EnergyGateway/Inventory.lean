import EnergyGateway.Catalog
import EnergyGateway.ComponentId
import EnergyGateway.Component
import EnergyGateway.Listing

/-!
# The inventory

A device can be changed when it is live on the edge and the configuration manager lists a PID for it.  The two
are joined by component id, within one category.
-/

namespace EnergyGateway

/-- A device that can be changed. -/
structure ManagedDevice where
  id : String
  pid : String
  component : Component

namespace Inventory

/-- The devices of a category, in id order. -/
def join (components : ComponentMap) (listings : List Listing) (catalog : Catalog) (category : Category) :
    List ManagedDevice :=
  let pids := Listing.index (fun factory => factory.any (catalog.covers category)) listings
  (components.entries.filter fun (_, c) => catalog.covers category c.factory).filterMap fun (id, c) =>
    (pids.get? id).map fun pid => ⟨id, pid, c⟩

def find? (devices : List ManagedDevice) (id : String) : Option ManagedDevice := devices.find? (·.id == id)

/-- What the inverters use of a tier. -/
def usage (tier : Tier Float) (inverters : List ManagedDevice) : Usage Float :=
  .ofRatings tier (inverters.map (·.component.ratedPower))

/-- Whether an id has the form of an inverter's. -/
def isInverterId (id : String) : Bool := Text.startsWith id ComponentId.inverterStem

/-- The inverters by the form of their id. -/
def inverterIds (components : ComponentMap) : List String := components.keys.filter isInverterId

/-- The installed power in watts, which percentages refer to.  It is a sum over the inverters by the form of
their id; the sum of none is the negative zero, which addition leaves alone. -/
def installedPower (components : ComponentMap) : Float :=
  (components.entries.filter fun (id, _) => isInverterId id).foldl (fun total (_, c) => total + c.ratedPower) (-0.0)

/-- Whether a bridge occupies a port, by its id or its alias. -/
def occupies (bridge : ManagedDevice) (port : PortTemplate) : Bool :=
  bridge.id == port.key || bridge.component.text? "alias" == some port.key

/-- The ports that no bridge uses yet. -/
def freePorts (catalog : Catalog) (bridges : List ManagedDevice) : List PortTemplate :=
  catalog.ports.filter fun port => !bridges.any (occupies · port)

/-- The roles that no meter has yet.  The role of the meter that is being edited stays free for it. -/
def freeRoles (catalog : Catalog) (meters : List ManagedDevice) (editing : Option String) : List MeterRole :=
  let used := meters.filterMap (·.component.text? "type")
  catalog.meterRoles.filter fun role => !used.contains role.value || editing == some role.value

/-- The PID of the power limit's controller that is listed under a name. -/
def limitPid? (listings : List Listing) (name : String) : Option String :=
  (Listing.indexOf Configuration.limitFactory listings).get? name

/-- One line per device: id, brand, PID and some properties. -/
def lines (catalog : Catalog) (category : Category) (devices : List ManagedDevice) (properties : List String) :
    String :=
  if devices.isEmpty then s!"No {category.label} configured\n"
  else
    String.join (devices.map fun device =>
      let values := properties.map fun key => key ++ "=" ++ (device.component.text? key).getD ""
      s!"{device.id}\t{catalog.brandName category device.component.factory}\t{device.pid}\t" ++
        " ".intercalate values ++ "\n")

end Inventory

end EnergyGateway
