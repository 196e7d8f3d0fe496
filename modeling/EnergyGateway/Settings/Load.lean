import EnergyGateway.Files
import EnergyGateway.Json.Reader
import EnergyGateway.Session.Basic
import EnergyGateway.Settings.Basic
import EnergyGateway.Toml.Reader

/-!
# Loading settings

Settings come from one source: the file that was named, or else the first of two files that is there, or else
the defaults with what the environment sets.  A source that was chosen is not left for another, whatever is
wrong with it.  Settings that break a rule are not used.
-/

namespace EnergyGateway

/-- Why there are no settings. -/
inductive SettingsError where
  | unreadable (path : String)
  | unparsable (path : String)
  | encryptedEdge
  | notWebSocket (url : String)
  | noEdge
  | notHttp (name url : String)
  | halfCredentials
  | noTime (name : String)
  | logLevel (level : String)
  deriving DecidableEq, Repr

/-- Why there is no catalog. -/
inductive CatalogError where
  | unreadable (path : String) (e : FileError)
  | unparsable (path : String)
  deriving DecidableEq, Repr

def CatalogError.message : CatalogError → String
  | .unreadable path _ | .unparsable path => s!"Failed to load catalog {path}"

/-- The words for the log levels. -/
def Settings.logLevels : List String := ["trace", "debug", "info", "warn", "error"]

def SettingsError.message : SettingsError → String
  | .unreadable path => s!"Failed to read {path}"
  | .unparsable path => s!"Failed to parse {path}"
  | .encryptedEdge => "edge.ws_url: wss:// is not supported, use ws://"
  | .notWebSocket url => s!"edge.ws_url must start with ws:// (got '{url}')"
  | .noEdge => "edge.edge_id must not be empty"
  | .notHttp name url => s!"{name} must start with http:// or https:// (got '{url}')"
  | .halfCredentials => "console.username and console.password must be set together"
  | .noTime name => s!"{name} must be greater than zero"
  | .logLevel level =>
    s!"system.log_level '{level}' is not one of [" ++
      ", ".intercalate (Settings.logLevels.map fun l => "\"" ++ l ++ "\"") ++ "]"

namespace Settings

/-! ### Rules -/

def requireHttp (name url : String) : Except SettingsError Unit :=
  if Text.startsWith url "http://" || Text.startsWith url "https://" then .ok () else .error (.notHttp name url)

def requireTime (name : String) (seconds : Nat) : Except SettingsError Unit :=
  if seconds = 0 then .error (.noTime name) else .ok ()

/-- Check every rule, the first that is broken counts. -/
def validate (s : Settings) : Except SettingsError Unit := do
  if Text.startsWith s.edge.url "wss://" then throw .encryptedEdge
  if !Text.startsWith s.edge.url "ws://" then throw (.notWebSocket s.edge.url)
  if Text.allBlank s.edge.id then throw .noEdge
  requireHttp "console.base_url" s.console.base
  requireHttp "network_api.base_url" s.networkBase
  requireHttp "ipsec_api.base_url" s.tunnelBase
  if s.console.user.isSome != s.console.password.isSome then throw .halfCredentials
  requireTime "edge.request_timeout_secs" s.edge.requestTimeout
  requireTime "edge.reconnect_delay_secs" s.edge.reconnectDelay
  requireTime "system.settle_timeout_secs" s.system.settleTimeout
  requireTime "system.snapshot_timeout_secs" s.system.snapshotTimeout
  if !logLevels.contains s.system.logLevel then throw (.logLevel s.system.logLevel)

/-! ### Sources -/

/-- The defaults with what the environment sets. -/
def ofEnvironment (env : String → Option String) : Settings where
  edge := {
    url := (env "EDGE_WS_URL").getD ({} : EdgeSettings).url
    id := (env "EDGE_ID").getD ({} : EdgeSettings).id
    user := (env "EDGE_USERNAME").getD ({} : EdgeSettings).user
    password := (env "EDGE_PASSWORD").getD ({} : EdgeSettings).password }
  console := {
    base := (env "EDGE_CONSOLE_URL").getD ({} : ConsoleSettings).base
    user := env "CONSOLE_USERNAME"
    password := env "CONSOLE_PASSWORD" }
  networkBase := (env "NETWORK_API_URL").getD ({} : Settings).networkBase
  tunnelBase := (env "IPSEC_API_URL").getD ({} : Settings).tunnelBase
  system := { logLevel := (env "LOG_LEVEL").getD ({} : SystemSettings).logLevel }

/-- The settings of a file: JSON if its name says so, TOML otherwise. -/
def ofFile (files : Files) (path : String) : Except SettingsError Settings :=
  match files.text path with
  | .error _ => .error (.unreadable path)
  | .ok text =>
    let settings := if Files.extension? path == some "json" then (Document.read text).bind read
      else (Toml.read text).bind readToml
    match settings with
    | some s => .ok s
    | none => .error (.unparsable path)

/-- The files that are looked for in a directory when none is named. -/
def standardPaths (directory : String) : List String := ["config.toml", "config.json"].map (Files.join directory)

/-- The file that the settings come from, if any. -/
def source? (files : Files) (path : Option String) (directory : String) : Option String :=
  path.or ((standardPaths directory).find? files.contains)

/-- The settings of the source that counts.  Without a path it is looked for in a directory. -/
def load (files : Files) (env : String → Option String) (path : Option String) (directory : String := ".") :
    Except SettingsError Settings := do
  let settings ← match source? files path directory with
    | some path => ofFile files path
    | none => pure (ofEnvironment env)
  settings.validate
  return settings

/-! ### What the settings mean -/

/-- The catalog in the file that is set, or the bundled one. -/
def catalog (s : Settings) (files : Files) : Except CatalogError Catalog :=
  match s.catalogPath with
  | none => .ok .bundled
  | some path =>
    match files.text path with
    | .error e => .error (.unreadable path e)
    | .ok text =>
      match (Document.read text).bind Catalog.read with
      | some c => .ok c
      | none => .error (.unparsable path)

/-- Access to the configuration manager. -/
def consoleServer (s : Settings) : Server where
  base := s.console.base
  credentials := s.console.user.bind fun user => s.console.password.map (user, ·)
  maxTries := s.console.maxTries

def networkServer (s : Settings) : Server := { base := s.networkBase }

def tunnelServer (s : Settings) : Server := { base := s.tunnelBase }

end Settings

end EnergyGateway
