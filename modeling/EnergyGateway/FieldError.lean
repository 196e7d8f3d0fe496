/-!
# Refused values

A value that a rule refuses is reported with the field it was meant for, before anything is sent to a device.
-/

namespace EnergyGateway

/-- A field whose value is refused, and why. -/
structure FieldError where
  field : String
  reason : String
  deriving DecidableEq, Repr

def FieldError.message (e : FieldError) : String := e.field ++ ": " ++ e.reason

end EnergyGateway
