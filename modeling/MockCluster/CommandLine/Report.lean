import MockCluster.CommandLine.Directory
import MockCluster.CommandLine.Request
import MockCluster.Settings.Form
import MockCluster.Text.Quoted
import MockCluster.Text.Utf8

/-!
# Carrying out requests

A request looks at one file at most: the one that it names, or the file at the default place. What was found there
decides the report. A failure is reported as a chain of messages, from the general to the particular.
-/

namespace MockCluster.CommandLine

/-- Where settings are looked for if no file is named. -/
def defaultFile : String := "config/cavern.toml"

/-- What became of a request. -/
inductive Report where
  /-- It was carried out; what is printed is given. -/
  | done (output : String)
  /-- It failed. -/
  | failed (messages : List String)
  /-- A cluster is to be started. -/
  | start (settings : Settings)
  deriving DecidableEq, Repr

/-- The file that a request names. -/
def Request.file? : Request → Option String
  | start file _ | validate file | display file _ => file

/-- The file that a request looks at. -/
def Request.path (r : Request) : String := r.file?.getD defaultFile

/-- Settings from a file, or the messages of the failure. -/
def loadFile (path : String) (found : FileState) : Except (List String) Settings :=
  let unread := "failed to read config file: " ++ path
  match found with
  | .absent reason | .unreadable reason => .error [unread, reason]
  | .content bytes =>
    match Utf8.decode? bytes with
    | none => .error [unread, "stream did not contain valid UTF-8"]
    | some text => (Settings.load text).mapError (LoadFault.messages "config file")

/-- The settings for a request that names a file or does not. A missing file at the default place means that nothing
is said. -/
def loadSettings (file : Option String) (found : FileState) : Except (List String) Settings :=
  match file with
  | some path => (loadFile path found).mapError (("failed to load config from " ++ Quoted.quote path) :: ·)
  | none => if found.isAbsent then .ok .standard else loadFile defaultFile found

/-- The output for valid settings. -/
def validOutput (s : Settings) : String :=
  s!"✓ Config file is valid\n  nodes: {s.nodes.length}\n  buckets: {s.buckets.length}\n"

/-- Settings in a format. -/
def render (s : Settings) (format : String) : Except (List String) String :=
  if format = "toml" then .ok (Toml.write s.toToml)
  else if format = "json" then .ok s.toJson.pretty
  else .error [s!"unsupported format: {format} (expected toml or json)"]

/-- Carries out a request, given what was found at its path. -/
def Request.run (r : Request) (found : FileState) : Report :=
  let result : Except (List String) Report := match r with
    | .validate _ =>
      if found.isAbsent then .error ["Config file not found: " ++ Quoted.quote r.path]
      else (loadSettings (some r.path) found).map fun s => .done (validOutput s)
    | .display file format => do
      let s ← loadSettings file found
      let text ← render s format
      return .done (text ++ "\n")
    | .start file overrides => do
      let s := (← loadSettings file found).override overrides
      match s.validate with
      | .ok () => return .start s
      | .error fault => .error ("invalid configuration" :: fault.messages)
  match result with
  | .ok report => report
  | .error messages => .failed messages

/-- How a failure is printed: the first message, and the others as its causes. -/
def failureText : List String → String
  | [] => "Error\n"
  | first :: causes =>
    let lines := causes.map fun cause => s!"    {cause}\n"
    s!"Error: {first}\n" ++ if causes.isEmpty then "" else "\nCaused by:\n" ++ String.join lines

/-- How the program is called. -/
def usageText : String :=
  "Usage:\n"
    ++ "  start [--bind ADDRESS] [--kv-port PORT] [--http-port PORT]\n"
    ++ "  config validate [--file FILE]\n"
    ++ "  config show [--file FILE] [--format toml|json]\n"
    ++ "Options of every command:\n"
    ++ "  -c, --config FILE\n"
    ++ "  --log-level trace|debug|info|warn|error\n"

/-- The name of the command that a request belongs to. -/
def Request.command : Request → String
  | start .. => "start"
  | validate _ | display .. => "config"

end MockCluster.CommandLine
