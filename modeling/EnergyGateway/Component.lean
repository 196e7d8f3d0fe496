import EnergyGateway.Decimal.Reader
import EnergyGateway.Json.Printer
import EnergyGateway.Json.Record
import EnergyGateway.Text.Blank

/-!
# Components

The edge describes each of its components by a factory and a map of properties.  Some properties arrive as text
where a number or a truth value is meant, so each is read by what it is wanted as.
-/

namespace EnergyGateway

/-- One configured component. -/
structure Component where
  factory : String := ""
  properties : KeyMap Json := .empty
  /-- What else the edge tells about the component. -/
  extra : KeyMap Json := .empty
  deriving Inhabited

/-- The components of an edge by their id. -/
abbrev ComponentMap := KeyMap Component

namespace Component

def property? (c : Component) (key : String) : Option Json := c.properties.get? key

/-- A property as text; numbers and truth values are written out. -/
def text? (c : Component) (key : String) : Option String :=
  match c.property? key with
  | some (.string s) => some s
  | some (.number n) => some n.text
  | some (.bool b) => some (if b then "true" else "false")
  | _ => none

/-- A property as a number, which may be written as text with blanks around it. -/
def number? (c : Component) (key : String) : Option Float :=
  match c.property? key with
  | some (.number (.int n)) => some (Float.ofInt n)
  | some (.number (.float x)) => some x
  | some (.string s) => Decimal.number? (Text.trimChars s.toList)
  | _ => none

/-- A property as a truth value, which may be written as text. -/
def truth? (c : Component) (key : String) : Option Bool :=
  match c.property? key with
  | some (.bool b) => some b
  | some (.string s) => if s = "true" then some true else if s = "false" then some false else none
  | _ => none

/-- The name for people: the alias if there is one, otherwise `fallback`. -/
def displayName (c : Component) (fallback : String) : String :=
  match c.property? "alias" with
  | some (.string s) => if s.isEmpty then fallback else s
  | _ => fallback

/-- The rated power in watts, zero if the component has none. -/
def ratedPower (c : Component) : Float := (c.number? "maxActivePower").getD 0

def withProperty (c : Component) (key : String) (value : Json) : Component :=
  { c with properties := c.properties.insert key value }

/-- An open map of JSON values. -/
def readProperties (d : Document) : Option (KeyMap Json) := d.map Document.value?

def read (d : Document) : Option Component := do
  let r ← d.openRecord? ["factoryId", "properties"]
  return {
    factory := ← r.withDefault "factoryId" Document.text ""
    properties := ← r.withDefault "properties" readProperties .empty
    extra := ← r.rest }

def json (c : Component) : Json :=
  .object ([("factoryId", .string c.factory), ("properties", .object c.properties.entries)] ++ c.extra.entries)

end Component

namespace ComponentMap

def read (d : Document) : Option ComponentMap := d.map Component.read

def json (components : ComponentMap) : Json := .object (components.entries.map fun (id, c) => (id, c.json))

end ComponentMap

end EnergyGateway
