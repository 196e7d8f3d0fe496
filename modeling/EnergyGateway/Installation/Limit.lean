import EnergyGateway.Installation.Basic
import EnergyGateway.PowerLimit

/-!
# The power limit of an installation

One controller limits all inverters together.  It is found by its factory, whatever its id; the configuration
manager may list it under its alias or under its id.  It is created when a limit is set for the first time.
-/

namespace EnergyGateway

/-- The limit as it is configured. -/
structure LimitState where
  /-- The id of the controller, when there is one. -/
  id : Option String
  label : Option String
  pid : Option String
  enabled : Bool
  /-- Watts. -/
  limit : Float
  /-- The limit as a percentage of the installed power. -/
  percent : Float
  /-- The installed power in watts. -/
  total : Float
  inverters : List String

namespace Installation

variable (i : Installation)

/-- The controller of the limit: the first component of its factory, in id order. -/
def limitController? : Option (String × Component) :=
  i.components.entries.find? fun (_, c) => c.factory == Configuration.limitFactory

def limitState : LimitState :=
  let total := Inventory.installedPower i.components
  let inverters := Inventory.inverterIds i.components
  match i.limitController? with
  | none => ⟨none, none, none, false, 0, 0, total, inverters⟩
  | some (id, c) =>
    let label := c.displayName id
    let pid := (Inventory.limitPid? i.listings label).or (Inventory.limitPid? i.listings id)
    let limit := (c.number? "powerLimit").getD 0
    ⟨some id, some label, pid, (c.truth? "enabled").getD false, limit, Setpoint.percentOf limit total, total, inverters⟩

/-- Set the limit for all inverters; tells it in watts. -/
def setLimit (enabled : Bool) (setpoint : Setpoint Float) : Except Failure (Decision UInt64) := do
  let state := i.limitState
  let watts ← match setpoint.resolve state.total with
    | .ok watts => pure watts
    | .error e => throw (.invalidValue e)
  let id := state.id.getD Configuration.limitId
  let controller : Configuration := .limitController ⟨id, state.label.getD id, enabled, watts, state.inverters⟩
  let posting ← match state.pid, state.id with
    | some pid, _ => Posting.change pid controller
    | none, some id => throw (.pidNotFound id)
    | none, none => Posting.creation controller
  return ⟨posting, watts⟩

end Installation

end EnergyGateway
