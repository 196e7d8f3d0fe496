import EnergyGateway.Text.Ascii
import EnergyGateway.Text.Digits

/-!
# New component ids

A new component gets the stem of its kind and the lowest number that no component with this stem has.
-/

namespace EnergyGateway.ComponentId

def inverterStem : String := "pvInverter"
def meterStem : String := "meter"
def storageStem : String := "battery"

/-- The id with a number. -/
def numbered (stem : String) (n : Nat) : String := stem ++ toString n

/-- The number that an id has behind the stem. -/
def number? (stem id : String) : Option Nat :=
  (Text.after? id stem).bind fun suffix => Text.natural? Text.wordMax suffix.toList

/-- The lowest number that is not taken.  One of the first `taken.length + 1` numbers is free. -/
def lowestFree (taken : List Nat) : Nat :=
  ((List.range (taken.length + 1)).find? fun n => !taken.contains n).getD 0

/-- The id with the lowest free number. -/
def next (stem : String) (existing : List String) : String :=
  numbered stem (lowestFree (existing.filterMap (number? stem)))

/-- The inverter id that follows from the number of inverters. -/
def byCount (count : Nat) : String := numbered inverterStem count

end EnergyGateway.ComponentId
