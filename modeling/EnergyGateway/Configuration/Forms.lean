import EnergyGateway.Configuration.Basic
import EnergyGateway.Form.Draft
import EnergyGateway.Text.Blank

/-!
# Forms of a configuration

A configuration is checked and then posted as a form.  The form that creates a component names its factory; both
forms end with the list of the properties they set, in the order of the fields.  A controller that exists
already takes its `enabled` as a checkbox.
-/

namespace EnergyGateway.Configuration

def requireText (field value : String) : Except FieldError Unit :=
  if Text.allBlank value then .error ⟨field, "must not be empty"⟩ else .ok ()

/-- The greatest unit an inverter may have on its bridge. -/
def maxUnit : UInt16 := 247

def requireUnit (unit : UInt16) : Except FieldError Unit :=
  if unit < 1 then .error ⟨"modbusUnitId", "must be at least 1"⟩ else .ok ()

def requireUnitUpTo (max unit : UInt16) : Except FieldError Unit := do
  requireUnit unit
  if max < unit then throw ⟨"modbusUnitId", s!"must be at most {max.toNat}"⟩

/-- The baud rates for a message. -/
def baudRateList : String := "[" ++ ", ".intercalate (LineSettings.baudRates.map fun b => toString b.toNat) ++ "]"

def isHexDigit (c : Char) : Bool := c.isDigit || ('a' ≤ c && c ≤ 'f') || ('A' ≤ c && c ≤ 'F')

/-- Whether a text looks like a digest of 32 bytes. -/
def isDigest (s : String) : Bool := s.length == 64 && s.toList.all isHexDigit

/-- Check every field, the first refusal counts. -/
def validate : Configuration → Except FieldError Unit
  | .serialPort c => do
    requireText "id" c.id
    requireText "portName" c.portName
    if !LineSettings.baudRates.contains c.line.baudRate then
      throw ⟨"baudRate", s!"{c.line.baudRate.toNat} is not one of {baudRateList}"⟩
    if c.line.databits < 5 || 8 < c.line.databits then throw ⟨"databits", "must be between 5 and 8"⟩
  | .inverter c => do
    requireText "factoryPid" c.factory
    requireText "id" c.id
    if c.ratedPower < 1 then throw ⟨"maxActivePower", "must be at least 1 W"⟩
    requireText "modbus.id" c.bridge
    requireUnitUpTo maxUnit c.unit
  | .meter c => do
    requireText "factoryPid" c.factory
    requireText "id" c.id
    requireText "alias" c.label
    requireText "type" c.role
    requireText "modbus.id" c.bridge
    requireUnit c.unit
  | .storage c => do
    requireText "factoryPid" c.factory
    requireText "id" c.id
    requireText "alias" c.label
    requireText "modbus.id" c.bridge
    requireUnit c.unit
  | .limitController c => do
    requireText "id" c.id
    requireText "alias" c.label
    if c.enabled && c.inverters.isEmpty then throw ⟨"pvInverter.id", "at least one PV inverter is required"⟩
  | .account c =>
    if isDigest c.passwordDigest then .ok () else .error ⟨"alias", "expected a SHA-256 hex digest"⟩

/-- The properties of the kind, in the order in which the console lists them. -/
def properties : Configuration → List (String × String)
  | .serialPort c =>
    [("portName", c.portName), ("baudRate", toString c.line.baudRate.toNat),
      ("databits", toString c.line.databits.toNat), ("stopbits", c.line.stopbits.word), ("parity", c.line.parity.word)]
  | .inverter c =>
    [("maxActivePower", toString c.ratedPower.toNat), ("modbus.id", c.bridge),
      ("modbusUnitId", toString c.unit.toNat)]
  | .meter c =>
    [("type", c.role), ("modbus.id", c.bridge), ("modbusUnitId", toString c.unit.toNat),
      ("invert", Form.truth c.invert)]
  | .storage c => [("modbus.id", c.bridge), ("modbusUnitId", toString c.unit.toNat)]
  | .limitController c => [("powerLimit", toString c.limit.toNat), ("pvInverter.id", ",".intercalate c.inverters)]
  | .account _ => []

/-- Properties that only a new component gets. -/
def initialProperties : Configuration → List (String × String)
  | .serialPort _ =>
    [("enableTermination", "false"), ("delayBeforeTx", "0"), ("delayAfterTx", "0"), ("logVerbosity", "1"),
      ("invalidateElementsAfterReadErrors", "1")]
  | _ => []

/-- Whether the component is switched on, for those that can be. -/
def enabled? : Configuration → Option Bool
  | .limitController c => some c.enabled
  | .account _ => none
  | _ => some true

/-- The start of a form that creates the component.  Only a serial bridge has a place of its own for its
configuration. -/
def creationStart (c : Configuration) : Form.Draft :=
  let start := (({} : Form.Draft).steer "apply" "true").steer "factoryPid" c.factory
  match c with
  | .serialPort _ => start.steer "location" ""
  | _ => start

/-- The form that creates the component, without its list. -/
def creationDraft (c : Configuration) : Form.Draft :=
  let named := (c.creationStart.put "id" c.id).put "alias" c.label
  let switched := match c.enabled? with
    | some b => named.put "enabled" (Form.truth b)
    | none => named
  (switched.putAll c.properties).putAll c.initialProperties

/-- The form that creates the component. -/
def createForm (c : Configuration) : Except FieldError Form := do
  c.validate
  return c.creationDraft.finish

/-- Whether a change repeats the id of the component. -/
def repeatsId : Configuration → Bool
  | .meter _ | .storage _ | .account _ => true
  | _ => false

/-- Whether a change sends `enabled` as a checkbox. -/
def hasCheckbox : Configuration → Bool
  | .limitController _ => true
  | _ => false

/-- The form that changes the component, without its list. -/
def changeDraft (c : Configuration) : Form.Draft :=
  let start := ({} : Form.Draft).steer "apply" "true"
  let named := (if c.repeatsId then start.put "id" c.id else start).put "alias" c.label
  let switched := match c.enabled? with
    | some b => if c.hasCheckbox then named.putCheckbox "enabled" b else named.put "enabled" (Form.truth b)
    | none => named
  switched.putAll c.properties

/-- The form that changes the component. -/
def updateForm (c : Configuration) : Except FieldError Form := do
  c.validate
  return c.changeDraft.finish

end EnergyGateway.Configuration
