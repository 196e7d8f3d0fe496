import EnergyGateway.FieldError
import EnergyGateway.Quantity

/-!
# Power limits

The operator sets a limit for all inverters together, in watts or as a percentage of the installed power.  The
device takes whole watts, and no limit above what is installed.
-/

namespace EnergyGateway

/-- A limit as it is entered. -/
inductive Setpoint (α : Type) where
  | watts (n : UInt64)
  | percent (p : α)

namespace Setpoint

variable {α : Type} [Quantity α]

/-- The percentage of the installed power; zero where nothing is installed. -/
def percentOf (watts total : α) : α :=
  if Quantity.atMost total (Quantity.ofNat 0) then Quantity.ofNat 0
  else watts / total * Quantity.ofNat 100

/-- The whole watts nearest to a percentage of the installed power. -/
def wattsOf (percent total : α) : UInt64 := Quantity.nearestWord (percent / Quantity.ofNat 100 * total)

/-- A limit that is refused. -/
def refused (reason : String) : FieldError := ⟨"powerLimit", reason⟩

/-- A limit that must not exceed the installed power. -/
def upTo (total : α) (watts : UInt64) : Except FieldError UInt64 :=
  if Quantity.less total (Quantity.ofNat watts.toNat) then
    .error (refused "Power limit cannot exceed total inverter power.")
  else .ok watts

/-- The limit in watts for an installed power of `total` watts. -/
def resolve (setpoint : Setpoint α) (total : α) : Except FieldError UInt64 :=
  match setpoint with
  | .watts n => upTo total n
  | .percent p =>
    if Quantity.atMost (Quantity.ofNat 0) p && Quantity.atMost p (Quantity.ofNat 100) then
      upTo total (wattsOf p total)
    else .error (refused "percentage must be between 0 and 100")

end Setpoint

end EnergyGateway
