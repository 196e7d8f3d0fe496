import EnergyGateway.CommandLine.Grammar
import EnergyGateway.Installation.Devices
import EnergyGateway.Network
import EnergyGateway.PowerLimit

/-!
# Commands

What an operator can ask for, and how it is said on a command line.
-/

namespace EnergyGateway

/-- What an operator asks for. -/
inductive Command where
  | status
  | components
  | listings
  /-- Tell of every snapshot, until there were as many as asked for. -/
  | watch (count : Option Nat)
  | devices (category : Category)
  | deleteDevice (category : Category) (id : String)
  | freePorts
  | freeRoles
  | addSerialPort (key : String) (line : LineSettings)
  | updateSerialPort (id : String) (line : LineSettings)
  | addInverter (brand : String) (s : InverterSettings)
  | updateInverter (id : String) (s : InverterSettings)
  | addMeter (brand : String) (s : MeterSettings)
  | updateMeter (id : String) (s : MeterSettings)
  | addStorage (brand : String) (s : StorageSettings)
  | updateStorage (id : String) (s : StorageSettings)
  | powerLimit
  | setPowerLimit (enabled : Bool) (setpoint : Setpoint Float)
  | login (user password : Option String)
  | changePassword (current new : String)
  | interfaces
  | updateInterface (id : String) (u : InterfaceUpdate)
  | connections
  | deleteConnection (id : String)
  | certificates
  | uploadCertificate (path : String)

/-- A command with what is said about all commands. -/
structure Invocation where
  settingsPath : Option String
  /-- Whether to print JSON where there is a choice. -/
  json : Bool
  command : Command

namespace CommandLine

/-! ### Values -/

def anyText (_ : String) : Bool := true

/-- A path must not be empty. -/
def isPath (s : String) : Bool := !s.isEmpty

/-- A whole number of at most `max`, with either sign. -/
def count? (max : Nat) (s : String) : Option Nat := Text.signed? max s.toList

/-- A whole number of 64 bits, without a minus. -/
def long? (s : String) : Option Nat := Text.natural? Text.wordMax s.toList

def byteMax : Nat := UInt8.size - 1
def shortMax : Nat := UInt16.size - 1
def mediumMax : Nat := UInt32.size - 1

def truth? (s : String) : Option Bool :=
  if s = "true" then some true else if s = "false" then some false else none

def float? (s : String) : Option Float := Decimal.number? s.toList

/-! ### Rules -/

def flag (name : String) : OptionRule := { name, expected := .nothing }

def option (name : String) (accepts : String → Bool) : OptionRule := { name, expected := .value accepts }

def requiredOption (name : String) (accepts : String → Bool) : OptionRule :=
  { name, expected := .value accepts, required := true }

/-- The options of every command. -/
def everywhere : List OptionRule :=
  [{ name := "config", letter := some 'c', expected := .value isPath }, flag "json"]

def lineOptions : List OptionRule :=
  [option "baud-rate" fun s => (count? mediumMax s).isSome,
    option "databits" fun s => (count? byteMax s).isSome,
    option "stopbits" fun s => (StopBits.parse s).isOk,
    option "parity" fun s => (Parity.parse s).isOk]

/-- Where a device is attached. -/
def bridgeOptions : List OptionRule :=
  [option "modbus-id" anyText, option "unit-id" fun s => (count? shortMax s).isSome]

def inverterOptions : List OptionRule :=
  requiredOption "power-w" (fun s => (count? mediumMax s).isSome) :: bridgeOptions

def meterOptions : List OptionRule :=
  [requiredOption "alias" anyText, requiredOption "type" anyText, flag "invert"] ++ bridgeOptions

def storageOptions : List OptionRule := requiredOption "alias" anyText :: bridgeOptions

def limitOptions : List OptionRule :=
  [option "watt" fun s => (long? s).isSome, option "percent" fun s => (float? s).isSome, flag "disable"]

def interfaceOptions : List OptionRule :=
  [option "dhcp" fun s => (truth? s).isSome, option "ip" anyText, option "mask" anyText, option "gateway" anyText]

/-- A command without options or operand. -/
def bare : CommandRule := .command [] none

/-- A command for one thing that is named. -/
def naming (options : List OptionRule) : CommandRule := .command options (some anyText)

/-- The commands for the devices of a category. -/
def deviceCommands (options : List OptionRule) : List (String × CommandRule) :=
  [("list", bare), ("add", naming options), ("update", naming options), ("delete", naming [])]

/-- All commands. -/
def commands : CommandRule :=
  .group [
    ("status", bare),
    ("components", bare),
    ("pids", bare),
    ("watch", .command [option "count" fun s => (long? s).isSome] none),
    ("serial", .group (("templates", bare) :: deviceCommands lineOptions)),
    ("inverters", .group (deviceCommands inverterOptions)),
    ("meters", .group (("types", bare) :: deviceCommands meterOptions)),
    ("storage", .group (deviceCommands storageOptions)),
    ("power-limit", .group [("show", bare), ("set", .command limitOptions none)]),
    ("login", .command [option "username" anyText, option "password" anyText] none),
    ("passwd", .command [requiredOption "current" anyText, requiredOption "new" anyText] none),
    ("network", .group [("list", bare), ("set", naming interfaceOptions)]),
    ("ipsec", .group [("list", bare), ("certificates", bare), ("upload", .command [] (some isPath)),
      ("delete", naming [])])]

/-! ### From arguments to commands -/

/-- The options of a serial line, the defaults where they are not given. -/
def lineSettings (a : Arguments) : LineSettings where
  baudRate := UInt32.ofNat (((a.value? "baud-rate").bind (count? mediumMax)).getD ({} : LineSettings).baudRate.toNat)
  databits := UInt8.ofNat (((a.value? "databits").bind (count? byteMax)).getD ({} : LineSettings).databits.toNat)
  stopbits := ((a.value? "stopbits").bind fun s => (StopBits.parse s).toOption).getD .one
  parity := ((a.value? "parity").bind fun s => (Parity.parse s).toOption).getD .none

def bridge (a : Arguments) : String := (a.value? "modbus-id").getD "modbus0"

def unit (a : Arguments) : UInt16 := UInt16.ofNat (((a.value? "unit-id").bind (count? shortMax)).getD 1)

def inverterSettings (a : Arguments) : Option InverterSettings := do
  return ⟨UInt32.ofNat (← (← a.value? "power-w") |> count? mediumMax), bridge a, unit a⟩

def meterSettings (a : Arguments) : Option MeterSettings := do
  return ⟨← a.value? "alias", ← a.value? "type", bridge a, unit a, a.has "invert"⟩

def storageSettings (a : Arguments) : Option StorageSettings := do
  return ⟨← a.value? "alias", bridge a, unit a⟩

/-- The limit, in watts or in percent but not both. -/
def setpoint (a : Arguments) : Option (Setpoint Float) :=
  match a.value? "watt", a.value? "percent" with
  | some watt, none => (long? watt).map fun n => .watts (UInt64.ofNat n)
  | none, some percent => (float? percent).map .percent
  | _, _ => none

def interfaceUpdate (a : Arguments) : InterfaceUpdate :=
  ⟨(a.value? "dhcp").bind truth?, a.value? "ip", a.value? "mask", a.value? "gateway"⟩

/-- The category that a group of commands is for. -/
def category? : String → Option Category
  | "serial" => some .serialPort
  | "inverters" => some .inverter
  | "meters" => some .meter
  | "storage" => some .storage
  | _ => none

/-- The command for devices of a category. -/
def deviceCommand (category : Category) (verb : String) (a : Arguments) : Option Command :=
  match verb, category with
  | "list", _ => some (.devices category)
  | "delete", _ => a.operand.map (.deleteDevice category)
  | "templates", .serialPort => some .freePorts
  | "types", .meter => some .freeRoles
  | "add", .serialPort => a.operand.map fun key => .addSerialPort key (lineSettings a)
  | "update", .serialPort => a.operand.map fun id => .updateSerialPort id (lineSettings a)
  | "add", .inverter => do return .addInverter (← a.operand) (← inverterSettings a)
  | "update", .inverter => do return .updateInverter (← a.operand) (← inverterSettings a)
  | "add", .meter => do return .addMeter (← a.operand) (← meterSettings a)
  | "update", .meter => do return .updateMeter (← a.operand) (← meterSettings a)
  | "add", .storage => do return .addStorage (← a.operand) (← storageSettings a)
  | "update", .storage => do return .updateStorage (← a.operand) (← storageSettings a)
  | _, _ => none

/-- The command that arguments ask for. -/
def command? (a : Arguments) : Option Command :=
  match a.path with
  | ["status"] => some .status
  | ["components"] => some .components
  | ["pids"] => some .listings
  | ["watch"] => some (.watch ((a.value? "count").bind long?))
  | ["power-limit", "show"] => some .powerLimit
  | ["power-limit", "set"] => (setpoint a).map (.setPowerLimit (!a.has "disable"))
  | ["login"] => some (.login (a.value? "username") (a.value? "password"))
  | ["passwd"] => do return .changePassword (← a.value? "current") (← a.value? "new")
  | ["network", "list"] => some .interfaces
  | ["network", "set"] => a.operand.map fun id => .updateInterface id (interfaceUpdate a)
  | ["ipsec", "list"] => some .connections
  | ["ipsec", "certificates"] => some .certificates
  | ["ipsec", "upload"] => a.operand.map .uploadCertificate
  | ["ipsec", "delete"] => a.operand.map .deleteConnection
  | [group, verb] => (category? group).bind fun category => deviceCommand category verb a
  | _ => none

/-- What a command line asks for. -/
def parse (words : List String) : Except Refusal Invocation := do
  let a ← read everywhere commands words
  match command? a with
  | some command => return ⟨a.value? "config", a.has "json", command⟩
  | none => throw .usage

end CommandLine

end EnergyGateway
