import EnergyGateway.FieldError
import EnergyGateway.Json.Record
import EnergyGateway.Text.Ascii

/-!
# Serial lines

Settings of a serial line as the bridges on the edge name them.  An operator may type them in any case, and the
numbers of stop bits as numbers.
-/

namespace EnergyGateway

inductive StopBits where
  | one
  | onePointFive
  | two
  deriving DecidableEq, Repr, Inhabited

inductive Parity where
  | none
  | even
  | odd
  | mark
  | space
  deriving DecidableEq, Repr, Inhabited

/-- A word out of a fixed choice: bare, or as the name of the only member of an object that holds nothing else. -/
def Document.choice {α : Type} (word? : String → Option α) : Document → Option α
  | .string s => word? s
  | .object [(s, .null)] => word? s
  | .object [(s, .object [])] => word? s
  | _ => none

namespace StopBits

def word : StopBits → String
  | .one => "ONE"
  | .onePointFive => "ONE_POINT_FIVE"
  | .two => "TWO"

def ofWord? (s : String) : Option StopBits :=
  if s = "ONE" then some .one
  else if s = "ONE_POINT_FIVE" then some .onePointFive
  else if s = "TWO" then some .two
  else .none

/-- What an operator typed. -/
def parse (s : String) : Except FieldError StopBits :=
  let typed := Text.upper s
  if typed = "ONE" ∨ typed = "1" then .ok .one
  else if typed = "ONE_POINT_FIVE" ∨ typed = "1.5" then .ok .onePointFive
  else if typed = "TWO" ∨ typed = "2" then .ok .two
  else .error ⟨"stopbits", s!"unsupported value '{s}', expected ONE, ONE_POINT_FIVE or TWO"⟩

end StopBits

namespace Parity

def word : Parity → String
  | .none => "NONE"
  | .even => "EVEN"
  | .odd => "ODD"
  | .mark => "MARK"
  | .space => "SPACE"

def ofWord? (s : String) : Option Parity :=
  if s = "NONE" then some .none
  else if s = "EVEN" then some .even
  else if s = "ODD" then some .odd
  else if s = "MARK" then some .mark
  else if s = "SPACE" then some .space
  else Option.none

/-- What an operator typed. -/
def parse (s : String) : Except FieldError Parity :=
  match ofWord? (Text.upper s) with
  | some parity => .ok parity
  | Option.none => .error ⟨"parity", s!"unsupported value '{s}', expected NONE, EVEN, ODD, MARK or SPACE"⟩

end Parity

/-- How a serial line is driven. -/
structure LineSettings where
  baudRate : UInt32 := 9600
  databits : UInt8 := 8
  stopbits : StopBits := .one
  parity : Parity := .none
  deriving DecidableEq, Repr, Inhabited

/-- The speeds that the bridges support. -/
def LineSettings.baudRates : List UInt32 := [9600, 19200, 38400, 57600, 115200]

end EnergyGateway
