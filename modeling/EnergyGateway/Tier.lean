import EnergyGateway.Decimal.Layout
import EnergyGateway.Json.Record
import EnergyGateway.Json.Basic
import EnergyGateway.Quantity

/-!
# Licensed tiers

A tier limits how many inverters an installation may have and how much power they may have together.  An
addition is checked against both limits, a changed rating only for the power by which it grows.
-/

namespace EnergyGateway

/-- The limits of a tier, the power in kilowatts. -/
structure Tier (α : Type) where
  maxInverters : Nat
  maxPower : α
  deriving DecidableEq

/-- The tier that allows nothing. -/
def Tier.none : Tier Float := ⟨0, 0⟩

def Tier.read (d : Document) : Option (Tier Float) := do
  let r ← d.closedRecord? ["maxInverters", "maxTotalPowerKW"]
  return ⟨← r.withDefault "maxInverters" (Document.natural Text.wordMax) 0,
    ← r.withDefault "maxTotalPowerKW" Document.float 0⟩

def Tier.json (t : Tier Float) : Json :=
  .object [("maxInverters", .nat t.maxInverters), ("maxTotalPowerKW", .float t.maxPower)]

/-- Why a tier refuses a change. -/
inductive TierViolation (α : Type) where
  | tooManyInverters (max : Nat)
  /-- Amounts in kilowatts. -/
  | tooMuchPower (requested remaining : α)

def TierViolation.message : TierViolation Float → String
  | .tooManyInverters max => s!"maximum of {max} inverters reached"
  | .tooMuchPower requested remaining =>
    s!"requested {Decimal.fixed 2 requested} kW exceeds remaining capacity of {Decimal.fixed 2 remaining} kW"

/-- What an installation uses of its tier, the power in kilowatts. -/
structure Usage (α : Type) where
  tier : Tier α
  count : Nat
  power : α

namespace Usage

variable {α : Type} [Quantity α]

/-- Watts as kilowatts. -/
def kilowatts (watts : α) : α := watts / Quantity.ofNat 1000

/-- The usage of inverters with these ratings in watts. -/
def ofRatings (tier : Tier α) (ratings : List α) : Usage α :=
  ⟨tier, ratings.length, kilowatts (ratings.foldl (· + ·) (Quantity.ofNat 0))⟩

/-- The power that is left, in kilowatts. -/
def remaining (u : Usage α) : α := u.tier.maxPower - u.power

/-- Whether no further inverter fits. -/
def isFull (u : Usage α) : Bool :=
  u.tier.maxInverters ≤ u.count || Quantity.atMost u.tier.maxPower u.power

/-- Do this many kilowatts still fit? -/
def checkPower (u : Usage α) (requested : α) : Except (TierViolation α) Unit :=
  if Quantity.less u.remaining requested then .error (.tooMuchPower requested u.remaining) else .ok ()

/-- May an inverter with this rating in watts be added? -/
def checkAdd (u : Usage α) (watts : α) : Except (TierViolation α) Unit :=
  if u.tier.maxInverters ≤ u.count then .error (.tooManyInverters u.tier.maxInverters)
  else u.checkPower (kilowatts watts)

/-- May the rating of an inverter change from one number of watts to another? -/
def checkUpdate (u : Usage α) (old new : α) : Except (TierViolation α) Unit :=
  u.checkPower (kilowatts (new - old))

end Usage

end EnergyGateway
