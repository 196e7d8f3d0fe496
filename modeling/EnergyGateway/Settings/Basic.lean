import EnergyGateway.Json.Record
import EnergyGateway.Json.Printer

/-!
# Settings

Where the edge and the web servers of the box are reached and how long to wait for them.  In a file only the
addresses and the user of the edge must be set; everything else has a default.
-/

namespace EnergyGateway

/-- How the edge is reached.  Times are in seconds. -/
structure EdgeSettings where
  url : String := "ws://localhost:8085/jsonrpc"
  id : String := "0"
  user : String := "admin"
  password : String := "admin"
  requestTimeout : Nat := 30
  reconnectDelay : Nat := 5
  deriving DecidableEq, Repr

/-- How the configuration manager is reached. -/
structure ConsoleSettings where
  base : String := "http://localhost:8080"
  user : Option String := none
  password : Option String := none
  maxTries : Nat := 3
  /-- Milliseconds. -/
  retryDelay : Nat := 500
  deriving DecidableEq, Repr

structure SystemSettings where
  logLevel : String := "info"
  /-- How long to wait for the snapshot that follows a change, in seconds. -/
  settleTimeout : Nat := 3
  /-- How long to wait for the first snapshot, in seconds. -/
  snapshotTimeout : Nat := 10
  deriving DecidableEq, Repr

structure Settings where
  /-- The file of the catalog; the bundled one otherwise. -/
  catalogPath : Option String := none
  edge : EdgeSettings := {}
  console : ConsoleSettings := {}
  /-- The start of the addresses of the network backend. -/
  networkBase : String := "http://localhost:5000"
  /-- The start of the addresses of the tunnel backend. -/
  tunnelBase : String := "http://localhost:5001"
  system : SystemSettings := {}
  deriving DecidableEq, Repr, Inhabited

namespace Settings

/-! ### Reading -/

/-- The largest number of a word of 32 bits. -/
def mediumMax : Nat := UInt32.size - 1

/-- The fields of the sections of a file, in their order. -/
def edgeFields : List String :=
  ["ws_url", "edge_id", "username", "password", "request_timeout_secs", "reconnect_delay_secs"]
def consoleFields : List String := ["base_url", "username", "password", "max_retries", "retry_delay_ms"]
def baseFields : List String := ["base_url"]
def systemFields : List String := ["log_level", "settle_timeout_secs", "snapshot_timeout_secs"]

def readEdge (d : Document) : Option EdgeSettings := do
  let r ← d.closedRecord? edgeFields
  let standard : EdgeSettings := {}
  return {
    url := ← r.required "ws_url" Document.text
    id := ← r.withDefault "edge_id" Document.text standard.id
    user := ← r.required "username" Document.text
    password := ← r.required "password" Document.text
    requestTimeout := ← r.withDefault "request_timeout_secs" (Document.natural Text.wordMax) standard.requestTimeout
    reconnectDelay := ← r.withDefault "reconnect_delay_secs" (Document.natural Text.wordMax) standard.reconnectDelay }

def readConsole (d : Document) : Option ConsoleSettings := do
  let r ← d.closedRecord? consoleFields
  let standard : ConsoleSettings := {}
  return {
    base := ← r.required "base_url" Document.text
    user := ← r.optional "username" Document.text
    password := ← r.optional "password" Document.text
    maxTries := ← r.withDefault "max_retries" (Document.natural mediumMax) standard.maxTries
    retryDelay := ← r.withDefault "retry_delay_ms" (Document.natural Text.wordMax) standard.retryDelay }

/-- The start of the addresses of a backend. -/
def readBase (d : Document) : Option String := do (← d.closedRecord? baseFields).required "base_url" Document.text

def readSystem (d : Document) : Option SystemSettings := do
  let r ← d.closedRecord? systemFields
  let standard : SystemSettings := {}
  return {
    logLevel := ← r.withDefault "log_level" Document.text standard.logLevel
    settleTimeout := ← r.withDefault "settle_timeout_secs" (Document.natural Text.wordMax) standard.settleTimeout
    snapshotTimeout :=
      ← r.withDefault "snapshot_timeout_secs" (Document.natural Text.wordMax) standard.snapshotTimeout }

def read (d : Document) : Option Settings := do
  let r ← d.closedRecord? ["catalog_path", "edge", "console", "network_api", "ipsec_api", "system"]
  let standard : Settings := {}
  return {
    catalogPath := ← r.optional "catalog_path" Document.text
    edge := ← r.required "edge" readEdge
    console := ← r.required "console" readConsole
    networkBase := ← r.withDefault "network_api" readBase standard.networkBase
    tunnelBase := ← r.withDefault "ipsec_api" readBase standard.tunnelBase
    system := ← r.withDefault "system" readSystem standard.system }

/-- The sections of a file, with their fields. -/
def sections : List (String × List String) :=
  [("edge", edgeFields), ("console", consoleFields), ("network_api", baseFields), ("ipsec_api", baseFields),
    ("system", systemFields)]

/-- A section that is a list, without the items behind its last field. -/
def cutSection (member : String × Document) : String × Document :=
  match sections.lookup member.1, member.2 with
  | some fields, .array items => (member.1, .array (items.take fields.length))
  | _, _ => member

/-- Read settings from TOML.  The list of a section may go on behind the last field, and nothing is asked of what
stands there; every other part must have a value, also one that no section declares. -/
def readToml : Document → Option Settings
  | .object members =>
    let d : Document := .object (members.map cutSection)
    if d.value?.isSome then read d else none
  | _ => none

/-! ### Writing -/

def edgeJson (e : EdgeSettings) : Json :=
  .object [("ws_url", .string e.url), ("edge_id", .string e.id), ("username", .string e.user),
    ("password", .string e.password), ("request_timeout_secs", .nat e.requestTimeout),
    ("reconnect_delay_secs", .nat e.reconnectDelay)]

def consoleJson (c : ConsoleSettings) : Json :=
  .object [("base_url", .string c.base), ("username", .ofOption .string c.user),
    ("password", .ofOption .string c.password), ("max_retries", .nat c.maxTries),
    ("retry_delay_ms", .nat c.retryDelay)]

def baseJson (base : String) : Json := .object [("base_url", .string base)]

def systemJson (s : SystemSettings) : Json :=
  .object [("log_level", .string s.logLevel), ("settle_timeout_secs", .nat s.settleTimeout),
    ("snapshot_timeout_secs", .nat s.snapshotTimeout)]

def json (s : Settings) : Json :=
  .object [("catalog_path", .ofOption .string s.catalogPath), ("edge", edgeJson s.edge),
    ("console", consoleJson s.console), ("network_api", baseJson s.networkBase), ("ipsec_api", baseJson s.tunnelBase),
    ("system", systemJson s.system)]

end Settings

end EnergyGateway
