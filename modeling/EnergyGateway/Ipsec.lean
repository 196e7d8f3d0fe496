import EnergyGateway.Json.Record

/-!
# IPsec connections

Tunnels and the certificates they use.  Fields that the console does not know are kept and sent back unchanged.
-/

namespace EnergyGateway

structure Connection where
  id : Option String
  name : String
  category : Option String
  kind : Option String
  authMethod : Option String
  state : Option String
  remoteAddress : Option String
  extra : KeyMap Json

structure Certificate where
  name : String
  kind : Option String
  identities : List String
  extra : KeyMap Json

namespace Connection

def read (d : Document) : Option Connection := do
  let r ← d.openRecord? ["id", "name", "category", "conn_type", "auth_method", "state", "remote_address"]
  return {
    id := ← r.optional "id" Document.text
    name := ← r.required "name" Document.text
    category := ← r.optional "category" Document.text
    kind := ← r.optional "conn_type" Document.text
    authMethod := ← r.optional "auth_method" Document.text
    state := ← r.optional "state" Document.text
    remoteAddress := ← r.optional "remote_address" Document.text
    extra := ← r.rest }

/-- The member of a field that has a text. -/
def present (key : String) (value : Option String) : List (String × Json) :=
  value.toList.map fun s => (key, .string s)

def json (c : Connection) : Json :=
  .object (present "id" c.id ++ [("name", .string c.name)] ++ present "category" c.category ++
    present "conn_type" c.kind ++ present "auth_method" c.authMethod ++ present "state" c.state ++
    present "remote_address" c.remoteAddress ++ c.extra.entries)

/-- One line: id, name, remote address and state. -/
def line (c : Connection) : String :=
  let id := c.id.getD "-"
  let remote := c.remoteAddress.getD "-"
  let state := c.state.getD "-"
  s!"  {id}\t{c.name}\t{remote}\t{state}\n"

end Connection

namespace Certificate

def read (d : Document) : Option Certificate := do
  let r ← d.openRecord? ["name", "type", "identities"]
  return {
    name := ← r.required "name" Document.text
    kind := ← r.optional "type" Document.text
    identities := ← r.withDefault "identities" (Document.list Document.text) []
    extra := ← r.rest }

def json (c : Certificate) : Json :=
  .object ([("name", .string c.name), ("type", .ofOption .string c.kind),
    ("identities", .array (c.identities.map .string))] ++ c.extra.entries)

/-- A certificate with a private key can serve as the identity of the box. -/
def hasPrivateKey (c : Certificate) : Bool := c.kind == some "key"

/-- One line: name, kind and identities. -/
def line (c : Certificate) : String :=
  let kind := c.kind.getD "-"
  s!"{c.name}\t{kind}\t" ++ ", ".intercalate c.identities ++ "\n"

end Certificate

end EnergyGateway
