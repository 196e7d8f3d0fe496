import EnergyGateway.Form

/-!
# Drafts of forms

A form is filled in field by field.  The properties among the fields are noted down on the way, because the form
ends with the list of them.
-/

namespace EnergyGateway.Form

/-- A form that is being filled in. -/
structure Draft where
  form : Form := {}
  /-- The properties that the list will name. -/
  listed : List String := []

namespace Draft

/-- Fill in a field that steers the manager and is not listed. -/
def steer (d : Draft) (key value : String) : Draft := { d with form := d.form.set key value }

/-- Fill in a property and list it. -/
def put (d : Draft) (key value : String) : Draft := ⟨d.form.set key value, d.listed ++ [key]⟩

/-- Fill in a property that is a checkbox and list it. -/
def putCheckbox (d : Draft) (key : String) (checked : Bool) : Draft :=
  ⟨d.form.setCheckbox key checked, d.listed ++ [key]⟩

/-- Fill in properties one after the other. -/
def putAll (d : Draft) (properties : List (String × String)) : Draft :=
  properties.foldl (fun d (key, value) => d.put key value) d

/-- The form with the list of its properties. -/
def finish (d : Draft) : Form := d.form.set "propertylist" (",".intercalate d.listed)

end Draft

end EnergyGateway.Form
