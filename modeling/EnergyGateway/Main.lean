import EnergyGateway.CommandLine.Run
import EnergyGateway.Simulation.Line

/-!
# The program

Reads the command line, the environment and the files that they name, runs the command and prints.  The commands
run on a line that is down, so what needs an edge or a server ends with the error for that, and who watches sees nothing.
-/

namespace EnergyGateway

/-- The variables that are read from the environment. -/
def environmentNames : List String :=
  ["EDGE_WS_URL", "EDGE_ID", "EDGE_USERNAME", "EDGE_PASSWORD", "EDGE_CONSOLE_URL", "CONSOLE_USERNAME", "CONSOLE_PASSWORD",
    "NETWORK_API_URL", "IPSEC_API_URL", "LOG_LEVEL"]

/-- The files that a command line can ask for before its settings are known. -/
def Invocation.paths (i : Invocation) : List String :=
  let settings := i.settingsPath.elim (Settings.standardPaths ".") fun path => [path]
  match i.command with
  | .uploadCertificate path => path :: settings
  | _ => settings

/-- The error behind a code of the operating system. -/
def FileError.ofCode (code : UInt32) (reason : String) : FileError :=
  match code with
  | 2 => .notFound
  | 13 => .denied
  | 20 => .notDirectory
  | 21 => .isDirectory
  | 36 => .nameTooLong
  | code => .system code.toNat reason

def FileError.ofSystem : IO.Error → FileError
  | .alreadyExists _ code reason | .otherError code reason | .resourceBusy code reason | .resourceVanished code reason
  | .unsupportedOperation code reason | .hardwareFault code reason | .unsatisfiedConstraints code reason
  | .illegalOperation code reason | .protocolError code reason | .timeExpired code reason | .interrupted _ code reason
  | .noFileOrDirectory _ code reason | .invalidArgument _ code reason | .permissionDenied _ code reason
  | .resourceExhausted _ code reason | .inappropriateType _ code reason | .noSuchThing _ code reason =>
    .ofCode code reason
  | .unexpectedEof => .system 5 "Input/output error"
  | .userError reason => .system 0 reason

/-- How a command that was not run, or failed, is reported: the text and the exit code. -/
def Stop.report : Stop → String × UInt32
  | .refused .help => ("Usage: energy-gateway [--config FILE] [--json] COMMAND", 0)
  | .refused .version => ("energy-gateway 0.1.0", 0)
  | .refused .usage => ("error: the command line is not understood", 2)
  | .settings e => (s!"Error: {e.message}", 1)
  | .catalog e => (s!"Error: {e.message}", 1)
  | .failed f => (s!"Error: {f.message}", 1)

end EnergyGateway

open EnergyGateway

/-- What a path leads to.  What cannot be opened may be there all the same. -/
def look (path : String) : IO (Except FileError (Except FileError ByteArray)) := do
  if path.toList.contains '\x00' then return .error .nulInName
  match ← observing (IO.FS.Handle.mk path .read) with
  | .ok handle =>
    match ← observing handle.readBinToEnd with
    | .ok contents => return .ok (.ok contents)
    | .error e => return .ok (.error (.ofSystem e))
  | .error e =>
    match FileError.ofSystem e with
    | .notFound | .notDirectory | .nameTooLong => return .error (.ofSystem e)
    | e =>
      match ← observing (IO.FS.realPath path) with
      | .ok _ => return .ok (.error e)
      | .error _ => return .error e

/-- The files at some paths.  No other path leads anywhere. -/
def lookAt (paths : List String) : IO Files := do
  let found ← paths.mapM fun path => return (path, ← look path)
  return ⟨fun path => (found.lookup path).getD (.error .notFound)⟩

/-- The environment, as far as the settings read it. -/
def readEnvironment : IO (String → Option String) := do
  let mut values : List (String × String) := []
  for name in environmentNames do
    if let some value ← IO.getEnv name then values := values ++ [(name, value)]
  return fun name => values.lookup name

def main (words : List String) : IO UInt32 := do
  let env ← readEnvironment
  let invocation := (CommandLine.parse words).toOption
  let paths := invocation.elim [] fun i => i.paths
  let settings := Settings.load (← lookAt paths) env (invocation.bind fun i => i.settingsPath)
  let files ← lookAt ((settings.toOption.bind fun s => s.catalogPath).toList ++ paths)
  match (runCommandLine Line.down () files env "" words).1 with
  | .ok printed =>
    IO.print printed.text
    return 0
  | .error stop =>
    let (text, code) := stop.report
    if code = 0 then IO.println text else IO.eprintln text
    return code
