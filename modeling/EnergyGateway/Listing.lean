import EnergyGateway.Json.Record
import EnergyGateway.Text.Ascii

/-!
# The list of configurations

The configuration manager lists every configuration under a persistent identifier, its PID.  Which component a
configuration belongs to is told only by a hint meant for people: the component's id stands in the first pair of
brackets.
-/

namespace EnergyGateway

/-- One configuration of the list. -/
structure Listing where
  pid : String
  /-- The factory the configuration was created from; a singleton has none. -/
  factory : Option String := none
  nameHint : Option String := none
  name : Option String := none
  /-- What else the list tells about the configuration. -/
  extra : KeyMap Json := .empty
  deriving Inhabited

namespace Listing

/-- The text in the first brackets of a hint. -/
def bracketed? (hint : String) : Option String := do
  let (_, behind) ← Text.cut? '[' hint.toList
  let (inside, _) ← Text.cut? ']' behind
  if inside.isEmpty then none else some (String.ofList inside)

/-- The id of the component, when the hint has one. -/
def label? (l : Listing) : Option String := l.nameHint.bind bracketed?

def hasFactory (l : Listing) (factory : String) : Bool := l.factory == some factory

def read (d : Document) : Option Listing := do
  let r ← d.openRecord? ["id", "fpid", "nameHint", "name"]
  return {
    pid := ← r.required "id" Document.text
    factory := ← r.optional "fpid" Document.text
    nameHint := ← r.optional "nameHint" Document.text
    name := ← r.optional "name" Document.text
    extra := ← r.rest }

def json (l : Listing) : Json :=
  .object ([("id", .string l.pid), ("fpid", .ofOption .string l.factory), ("nameHint", .ofOption .string l.nameHint),
    ("name", .ofOption .string l.name)] ++ l.extra.entries)

/-- The PIDs by component id of the configurations whose factory is accepted.  A later configuration with the
same id takes the place of an earlier one. -/
def index (accept : Option String → Bool) (list : List Listing) : KeyMap String :=
  .ofList ((list.filter (accept ·.factory)).filterMap fun l => l.label?.map (·, l.pid))

/-- The PIDs of the configurations of one factory. -/
def indexOf (factory : String) (list : List Listing) : KeyMap String := index (· == some factory) list

end Listing

end EnergyGateway
