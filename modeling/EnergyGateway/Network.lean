import EnergyGateway.Json.Record

/-!
# Network interfaces

The addresses of the interfaces of the box, and changes to them, which leave alone what they do not mention.
-/

namespace EnergyGateway

structure Interface where
  id : String
  displayName : String
  dhcp : Bool
  address : String
  mask : String
  gateway : String
  deriving DecidableEq, Repr

structure InterfaceUpdate where
  dhcp : Option Bool
  address : Option String
  mask : Option String
  gateway : Option String
  deriving DecidableEq, Repr

namespace Interface

def read (d : Document) : Option Interface := do
  let r ← d.closedRecord? ["id", "displayName", "isDhcp", "ipAddress", "subnetMask", "gateway"]
  return {
    id := ← r.required "id" Document.text
    displayName := ← r.withDefault "displayName" Document.text ""
    dhcp := ← r.withDefault "isDhcp" Document.boolean false
    address := ← r.withDefault "ipAddress" Document.text ""
    mask := ← r.withDefault "subnetMask" Document.text ""
    gateway := ← r.withDefault "gateway" Document.text "" }

def json (i : Interface) : Json :=
  .object [("id", .string i.id), ("displayName", .string i.displayName), ("isDhcp", .bool i.dhcp),
    ("ipAddress", .string i.address), ("subnetMask", .string i.mask), ("gateway", .string i.gateway)]

/-- One line: id, name and how the interface is addressed. -/
def line (i : Interface) : String :=
  let addressing := if i.dhcp then "dhcp" else s!"{i.address}/{i.mask} via {i.gateway}"
  s!"{i.id}\t{i.displayName}\t{addressing}\n"

end Interface

namespace InterfaceUpdate

def read (d : Document) : Option InterfaceUpdate := do
  let r ← d.closedRecord? ["isDhcp", "ipAddress", "subnetMask", "gateway"]
  return {
    dhcp := ← r.optionalByName "isDhcp" Document.boolean
    address := ← r.optionalByName "ipAddress" Document.text
    mask := ← r.optionalByName "subnetMask" Document.text
    gateway := ← r.optionalByName "gateway" Document.text }

def json (u : InterfaceUpdate) : Json :=
  .object (u.dhcp.toList.map (("isDhcp", .bool ·)) ++ u.address.toList.map (("ipAddress", .string ·)) ++
    u.mask.toList.map (("subnetMask", .string ·)) ++ u.gateway.toList.map (("gateway", .string ·)))

end InterfaceUpdate

end EnergyGateway
