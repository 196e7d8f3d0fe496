import EnergyGateway.Form

/-!
# Forms of open properties

Besides the configurations of known kinds, any properties can be posted.  A form is complete when it says that
it is to be applied and lists its properties; what the caller has said already is not changed.  The fields that
steer the manager are not properties.
-/

namespace EnergyGateway.Form

/-- The fields that steer the manager. -/
def controlKeys : List String := ["apply", "propertylist", "factoryPid", "delete", "location"]

/-- The names of the properties of a form, with commas between them. -/
def propertyNames (f : Form) : String := ",".intercalate (f.keys.filter (!controlKeys.contains ·))

/-- The form with what it lacks of the two fields that every change has. -/
def complete (f : Form) : Form :=
  let applied := if f.contains "apply" then f else f.set "apply" "true"
  if applied.contains "propertylist" then applied else applied.set "propertylist" applied.propertyNames

/-- The form for the properties of a component. -/
def ofComponent (properties : KeyMap Json) : Form := (ofProperties properties).complete

/-- Set a property of a controller, whose `enabled` is a checkbox when it is on. -/
def setControllerProperty (f : Form) (property : String × Json) : Form :=
  match property with
  | ("enabled", .bool true) => f.setCheckbox "enabled" true
  | (key, value) => f.set key (formValue value)

/-- The form for the properties of a controller. -/
def ofController (properties : KeyMap Json) : Form := (properties.entries.foldl setControllerProperty {}).complete

/-- The form for values, which stand in fields of their own kind, `KEY.value`. -/
def ofValues (properties : KeyMap Json) : Form :=
  let fields := properties.entries.map fun (key, value) => (key ++ ".value", formValue value)
  (setAll {} (("apply", "true") :: fields)).set "propertylist" (",".intercalate properties.keys)

/-- The form that deletes a configuration. -/
def deletion : Form := ⟨[("apply", "true"), ("delete", "true")]⟩

end EnergyGateway.Form
