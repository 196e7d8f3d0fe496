import EnergyGateway.Settings.Load
import EnergyGateway.Simulation.Files

/-!
# Settings come from one source

The file that is named is the source of the settings, or else the first of two files that is there, or else the
defaults with what the environment sets.  What loading gives is told by that source alone: an error if it cannot be
read or parsed or breaks a rule, and its settings otherwise (`load_from_one_source`).  So nothing that any other file or
variable holds can make a difference.
-/

namespace EnergyGateway.Settings

/-! ### Variables of the environment -/

/-- The variables that can take the place of a default. -/
inductive Variable where
  | edgeUrl
  | edgeId
  | edgeUser
  | edgePassword
  | consoleBase
  | consoleUser
  | consolePassword
  | networkBase
  | tunnelBase
  | logLevel

namespace Variable

def all : List Variable :=
  [edgeUrl, edgeId, edgeUser, edgePassword, consoleBase, consoleUser, consolePassword, networkBase, tunnelBase,
    logLevel]

def name : Variable → String
  | edgeUrl => "EDGE_WS_URL"
  | edgeId => "EDGE_ID"
  | edgeUser => "EDGE_USERNAME"
  | edgePassword => "EDGE_PASSWORD"
  | consoleBase => "EDGE_CONSOLE_URL"
  | consoleUser => "CONSOLE_USERNAME"
  | consolePassword => "CONSOLE_PASSWORD"
  | networkBase => "NETWORK_API_URL"
  | tunnelBase => "IPSEC_API_URL"
  | logLevel => "LOG_LEVEL"

/-- The settings with another value in the one field that the variable names. -/
def set (s : Settings) (value : String) : Variable → Settings
  | edgeUrl => { s with edge.url := value }
  | edgeId => { s with edge.id := value }
  | edgeUser => { s with edge.user := value }
  | edgePassword => { s with edge.password := value }
  | consoleBase => { s with console.base := value }
  | consoleUser => { s with console.user := some value }
  | consolePassword => { s with console.password := some value }
  | networkBase => { s with networkBase := value }
  | tunnelBase => { s with tunnelBase := value }
  | logLevel => { s with system.logLevel := value }

/-- The settings with the value of the variable, if it is set. -/
def override (env : String → Option String) (s : Settings) (x : Variable) : Settings :=
  match env x.name with
  | some value => x.set s value
  | none => s

end Variable

/-- The defaults, with the fields replaced whose variables are set. -/
def overridden (env : String → Option String) : Settings := Variable.all.foldl (Variable.override env) {}

/-- One variable at a time, in terms of what becomes of its field. -/
private theorem override_eq (env : String → Option String) (s : Settings) (x : Variable) :
    x.override env s = match x with
      | .edgeUrl => { s with edge.url := (env "EDGE_WS_URL").getD s.edge.url }
      | .edgeId => { s with edge.id := (env "EDGE_ID").getD s.edge.id }
      | .edgeUser => { s with edge.user := (env "EDGE_USERNAME").getD s.edge.user }
      | .edgePassword => { s with edge.password := (env "EDGE_PASSWORD").getD s.edge.password }
      | .consoleBase => { s with console.base := (env "EDGE_CONSOLE_URL").getD s.console.base }
      | .consoleUser => { s with console.user := (env "CONSOLE_USERNAME").or s.console.user }
      | .consolePassword => { s with console.password := (env "CONSOLE_PASSWORD").or s.console.password }
      | .networkBase => { s with networkBase := (env "NETWORK_API_URL").getD s.networkBase }
      | .tunnelBase => { s with tunnelBase := (env "IPSEC_API_URL").getD s.tunnelBase }
      | .logLevel => { s with system.logLevel := (env "LOG_LEVEL").getD s.system.logLevel } := by
  cases x <;>
  · simp only [Variable.override, Variable.name]
    split
    · rename_i value heq
      rw [heq]
      rfl
    · rename_i heq
      rw [heq]
      rfl

theorem ofEnvironment_eq (env : String → Option String) : ofEnvironment env = overridden env := by
  simp only [overridden, Variable.all, List.foldl_cons, List.foldl_nil, override_eq, Option.or_none]
  rfl

/-! ### Sources -/

/-- Where settings can come from. -/
inductive Source where
  | file (path : String)
  | environment

/-- The source that counts, where a path may be named, and a directory is where to look otherwise. -/
inductive Chosen (files : Files) (directory : String) : Option String → Source → Prop
  | named (path : String) : Chosen files directory (some path) (.file path)
  | toml (h : files.contains (Files.join directory "config.toml")) :
      Chosen files directory none (.file (Files.join directory "config.toml"))
  | json (h : ¬ files.contains (Files.join directory "config.toml"))
      (h' : files.contains (Files.join directory "config.json")) :
      Chosen files directory none (.file (Files.join directory "config.json"))
  | environment (h : ¬ files.contains (Files.join directory "config.toml"))
      (h' : ¬ files.contains (Files.join directory "config.json")) : Chosen files directory none .environment

/-- The settings that the contents of a file say, by the extension of its name. -/
def parse? (path contents : String) : Option Settings :=
  if Files.extension? path = some "json" then (Document.read contents).bind read
  else (Toml.read contents).bind readToml

/-- Settings that break no rule can be used; otherwise the first rule that they break is told. -/
inductive Checked (s : Settings) : Except SettingsError Settings → Prop
  | passed (h : s.validate = .ok ()) : Checked s (.ok s)
  | broken {e : SettingsError} (h : s.validate = .error e) : Checked s (.error e)

/-- What a source gives. -/
inductive Gives (files : Files) (env : String → Option String) : Source → Except SettingsError Settings → Prop
  | unreadable {path e} (h : files.text path = .error e) : Gives files env (.file path) (.error (.unreadable path))
  | unparsable {path contents} (h : files.text path = .ok contents) (h' : parse? path contents = none) :
      Gives files env (.file path) (.error (.unparsable path))
  | file {path contents s r} (h : files.text path = .ok contents) (h' : parse? path contents = some s)
      (hr : Checked s r) : Gives files env (.file path) r
  | environment {r} (hr : Checked (overridden env) r) : Gives files env .environment r

/-- A source is the same for two runs: the file reads the same, or the variables that can take the place of a default
are set the same. -/
def Source.SameFor (files files' : Files) (env env' : String → Option String) : Source → Prop
  | .file path => files.text path = files'.text path
  | .environment => ∀ x : Variable, env x.name = env' x.name

theorem chosen_iff {files : Files} {directory : String} {path : Option String} {source : Source} :
    Chosen files directory path source ↔ source = (source? files path directory).elim .environment .file := by
  cases path with
  | some path =>
    refine ⟨fun h => ?_, fun h => h ▸ .named path⟩
    cases h
    rfl
  | none =>
    by_cases htoml : files.contains (Files.join directory "config.toml")
    · have hsource : source? files none directory = some (Files.join directory "config.toml") := by
        simp [source?, standardPaths, htoml]
      rw [hsource]
      refine ⟨fun h => ?_, fun h => h ▸ .toml htoml⟩
      cases h with
      | toml => rfl
      | json h | environment h => exact absurd htoml h
    · by_cases hjson : files.contains (Files.join directory "config.json")
      · have hsource : source? files none directory = some (Files.join directory "config.json") := by
          simp [source?, standardPaths, htoml, hjson]
        rw [hsource]
        refine ⟨fun h => ?_, fun h => h ▸ .json htoml hjson⟩
        cases h with
        | toml h => exact absurd h htoml
        | json => rfl
        | environment _ h => exact absurd hjson h
      · have hsource : source? files none directory = none := by
          simp [source?, standardPaths, htoml, hjson]
        rw [hsource]
        refine ⟨fun h => ?_, fun h => h ▸ .environment htoml hjson⟩
        cases h with
        | toml h => exact absurd h htoml
        | json _ h => exact absurd h hjson
        | environment => rfl

theorem exists_chosen (files : Files) (directory : String) (path : Option String) :
    ∃ source, Chosen files directory path source :=
  ⟨_, chosen_iff.2 rfl⟩

theorem Chosen.unique {files : Files} {directory : String} {path : Option String} {source source' : Source}
    (h : Chosen files directory path source) (h' : Chosen files directory path source') : source = source' :=
  (chosen_iff.1 h).trans (chosen_iff.1 h').symm

/-! ### Loading -/

/-- Settings from a source. -/
def loadFrom (files : Files) (env : String → Option String) (source : Source) : Except SettingsError Settings := do
  let settings ← match source with
    | .file path => ofFile files path
    | .environment => pure (overridden env)
  settings.validate
  return settings

theorem load_eq_loadFrom {files : Files} {env : String → Option String} {directory : String} {path : Option String}
    {source : Source} (h : Chosen files directory path source) :
    load files env path directory = loadFrom files env source := by
  rw [chosen_iff.1 h, load]
  cases source? files path directory with
  | some path => rfl
  | none =>
    rw [ofEnvironment_eq]
    rfl

theorem checked_validate (s : Settings) : Checked s (s.validate >>= fun _ => pure s) := by
  cases h : s.validate with
  | ok u => exact .passed h
  | error e => exact .broken h

theorem ofFile_of_read {files : Files} {path contents : String} (h : files.text path = .ok contents) :
    ofFile files path = (parse? path contents).elim (.error (.unparsable path)) .ok := by
  unfold ofFile parse?
  rw [h]
  by_cases hjson : Files.extension? path = some "json"
  · simp only [hjson, beq_self_eq_true, if_true]
    cases (Document.read contents).bind read <;> rfl
  · simp only [beq_eq_false_iff_ne.2 hjson, if_neg hjson, Bool.false_eq_true, if_false]
    cases (Toml.read contents).bind readToml <;> rfl

theorem gives_loadFrom (files : Files) (env : String → Option String) (source : Source) :
    Gives files env source (loadFrom files env source) := by
  cases source with
  | file path =>
    cases hread : files.text path with
    | error e =>
      have hload : loadFrom files env (.file path) = .error (.unreadable path) := by
        simp only [loadFrom, ofFile, hread]
        rfl
      exact hload ▸ .unreadable hread
    | ok contents =>
      have hfile := ofFile_of_read hread
      cases hparse : parse? path contents with
      | none =>
        have hload : loadFrom files env (.file path) = .error (.unparsable path) := by
          simp only [loadFrom, hfile, hparse]
          rfl
        exact hload ▸ .unparsable hread hparse
      | some s =>
        have hload : loadFrom files env (.file path) = s.validate >>= fun _ => pure s := by
          simp only [loadFrom, hfile, hparse]
          rfl
        exact hload ▸ .file hread hparse (checked_validate s)
  | environment => exact .environment (checked_validate _)

/-- Settings that are checked have one outcome. -/
theorem Checked.unique {s : Settings} {r r' : Except SettingsError Settings} (h : Checked s r) (h' : Checked s r') :
    r = r' := by
  cases h <;> cases h' <;> simp_all

theorem Checked.validate_eq_ok {s s' : Settings} (h : Checked s (.ok s')) : s'.validate = .ok () := by
  cases h
  assumption

/-- A source gives one result. -/
theorem Gives.unique {files : Files} {env : String → Option String} {source : Source}
    {r r' : Except SettingsError Settings} (h : Gives files env source r) (h' : Gives files env source r') :
    r = r' := by
  cases h with
  | unreadable hread => cases h' <;> simp_all
  | unparsable hread hparse => cases h' <;> simp_all
  | file hread hparse hr =>
    cases h' with
    | unreadable hread' | unparsable hread' => simp_all
    | file hread' hparse' hr' =>
      obtain rfl := Except.ok.inj (hread.symm.trans hread')
      obtain rfl := Option.some.inj (hparse.symm.trans hparse')
      exact hr.unique hr'
  | environment hr =>
    cases h' with
    | environment hr' => exact hr.unique hr'

/-- What a source gives breaks no rule. -/
theorem Gives.validate_eq_ok {files : Files} {env : String → Option String} {source : Source} {s : Settings}
    (h : Gives files env source (.ok s)) : s.validate = .ok () := by
  cases h with
  | file _ _ hr | environment hr => exact hr.validate_eq_ok

/-! ### Two runs -/

/-- The defaults are replaced by the variables alone. -/
theorem overridden_congr {env env' : String → Option String} (h : ∀ x : Variable, env x.name = env' x.name) :
    overridden env = overridden env' := by
  have hstep : Variable.override env = Variable.override env' := by
    funext s x
    simp only [Variable.override, h x]
  rw [overridden, overridden, hstep]

/-- A source that is the same gives the same. -/
theorem Gives.of_sameFor {files files' : Files} {env env' : String → Option String} {source : Source}
    {r : Except SettingsError Settings} (h : source.SameFor files files' env env') (hr : Gives files env source r) :
    Gives files' env' source r := by
  cases hr with
  | unreadable hread => exact .unreadable (h ▸ hread)
  | unparsable hread hparse => exact .unparsable (h ▸ hread) hparse
  | file hread hparse hr => exact .file (h ▸ hread) hparse hr
  | environment hr => exact .environment (overridden_congr h ▸ hr)

/-- Loading has one source.  What that source gives is what is loaded, errors included, and settings that are loaded
break no rule.  Whatever the other files and variables hold, another run with the same source gives the same. -/
theorem load_from_one_source (files : Files) (env : String → Option String) (path : Option String)
    (directory : String) :
    ∃ source, Chosen files directory path source ∧ (∀ other, Chosen files directory path other → other = source) ∧
      (∀ r, Gives files env source r ↔ load files env path directory = r) ∧
      (∀ s, load files env path directory = .ok s → s.validate = .ok ()) ∧
      ∀ files' env' path' directory', Chosen files' directory' path' source →
        source.SameFor files files' env env' →
        load files' env' path' directory' = load files env path directory := by
  obtain ⟨source, hchosen⟩ := exists_chosen files directory path
  have hgives : Gives files env source (load files env path directory) :=
    load_eq_loadFrom hchosen ▸ gives_loadFrom files env source
  refine ⟨source, hchosen, fun other hother => hother.unique hchosen,
    fun r => ⟨hgives.unique, fun h => h ▸ hgives⟩, fun s hs => (hs ▸ hgives).validate_eq_ok,
    fun files' env' path' directory' hchosen' hsame => ?_⟩
  have hgives' : Gives files' env' source (load files' env' path' directory') :=
    load_eq_loadFrom hchosen' ▸ gives_loadFrom files' env' source
  exact hgives'.unique (hgives.of_sameFor hsame)

/-- A file that may not be read is not left for the one behind it. -/
example :
    let files : SimulatedFiles := { entries := [("config.toml", .error .denied), ("config.json", .ok "{}".toUTF8)] }
    load files.toFiles (fun _ => none) none matches .error (.unreadable "./config.toml") := by
  decide +kernel

/-- A file outside the working directory is a source as well. -/
example :
    let edge := "[edge]\nws_url = 'ws://edge'\nedge_id = '7'\nusername = ''\npassword = ''\n"
    let console := "[console]\nbase_url = 'http://console'\n"
    let files := SimulatedFiles.ofTexts [("/etc/edge.toml", edge ++ console), ("config.toml", "")]
    (load files.toFiles (fun _ => none) (some "/etc/edge.toml")).toOption.map (·.edge.id) = some "7" := by
  decide +kernel

end EnergyGateway.Settings
