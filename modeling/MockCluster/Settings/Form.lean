import MockCluster.Settings.Validity
import MockCluster.Text.Json
import MockCluster.Toml.Document
import MockCluster.Toml.Printer

/-!
# Settings in files

Settings are read from TOML (`Settings.ofToml?`) and shown as TOML and as JSON (`Settings.toToml`, `Settings.toJson`).
Keys without a meaning are passed over, and what is not there gets its default. In TOML, settings without a value are
left out.
-/

namespace MockCluster

/-- The value of a field if it is there and can be read, a default if it is not there, none if it cannot be read. -/
def Toml.fieldOr {α : Type} (fields : List (String × Toml)) (key : String) (default : α) (read : Toml → Option α) :
    Option α :=
  match Toml.lookup key fields with
  | none => some default
  | some v => read v

/-- The value of a field that must be there. -/
def Toml.field? {α : Type} (fields : List (String × Toml)) (key : String) (read : Toml → Option α) : Option α :=
  (Toml.lookup key fields).bind read

/-- The entries of a table as a map. -/
def Toml.map? {α : Type} (read : Toml → Option α) (v : Toml) : Option (NameMap α) := do
  let fields ← v.fields?
  let pairs ← fields.mapM fun (key, v) => (read v).map (key, ·)
  return NameMap.ofList pairs

/-- The elements of an array. -/
def Toml.list? {α : Type} (read : Toml → Option α) (v : Toml) : Option (List α) := do
  (← v.array?).mapM read

/-- A natural number of 16 bits. -/
def Toml.nat16? : Toml → Option Nat := Toml.natUpTo? 65535

namespace ListenerSettings

/-- Reads the settings of the listeners. -/
def ofToml? (v : Toml) : Option ListenerSettings := do
  let fields ← v.record? ["bind", "kv_port_base", "http_port_base"]
  let bind ← Toml.fieldOr fields "bind" standard.bind Toml.string?
  let kvPortBase ← Toml.fieldOr fields "kv_port_base" none fun v => v.nat16?.map some
  let httpPortBase ← Toml.fieldOr fields "http_port_base" none fun v => v.nat16?.map some
  return { bind, kvPortBase, httpPortBase }

/-- The settings of the listeners as fields. -/
def toToml (l : ListenerSettings) : List (String × Toml) :=
  [("bind", .string l.bind)]
    ++ (l.kvPortBase.map fun port => ("kv_port_base", Toml.integer port)).toList
    ++ (l.httpPortBase.map fun port => ("http_port_base", Toml.integer port)).toList

/-- The settings of the listeners as an object. -/
def toJson (l : ListenerSettings) : Json :=
  .obj [
    ("bind", .str l.bind),
    ("kv_port_base", (l.kvPortBase.map Json.nat).getD .null),
    ("http_port_base", (l.httpPortBase.map Json.nat).getD .null)]

end ListenerSettings

namespace Credentials

/-- Reads a login. -/
def ofToml? (v : Toml) : Option Credentials := do
  let fields ← v.record? ["username", "password"]
  let username ← Toml.fieldOr fields "username" standard.username Toml.string?
  let password ← Toml.fieldOr fields "password" standard.password Toml.string?
  return { username, password }

/-- A login as fields. -/
def toToml (c : Credentials) : List (String × Toml) :=
  [("username", .string c.username), ("password", .string c.password)]

/-- A login as an object. -/
def toJson (c : Credentials) : Json :=
  .obj [("username", .str c.username), ("password", .str c.password)]

end Credentials

namespace AlternateSettings

/-- Reads an alternate address. -/
def ofToml? (v : Toml) : Option AlternateSettings := do
  let fields ← v.record? ["hostname", "ports"]
  let hostname ← Toml.field? fields "hostname" Toml.string?
  let ports ← Toml.fieldOr fields "ports" .empty (Toml.map? Toml.nat16?)
  return { hostname, ports }

/-- An alternate address as a table. -/
def toToml (a : AlternateSettings) : Toml :=
  .table [
    ("hostname", .string a.hostname),
    ("ports", .table (a.ports.entries.map fun (name, port) => (name, .integer port)))]

/-- An alternate address as an object. -/
def toJson (a : AlternateSettings) : Json :=
  .obj [
    ("hostname", .str a.hostname),
    ("ports", .obj (a.ports.entries.map fun (name, port) => (name, .nat port)))]

end AlternateSettings

namespace NodeSettings

/-- Reads the settings of a node. -/
def ofToml? (v : Toml) : Option NodeSettings := do
  let fields ← v.record? ["hostname", "services", "network", "alternate_addresses"]
  let hostname ← Toml.fieldOr fields "hostname" standard.hostname Toml.string?
  let services ← Toml.fieldOr fields "services" standard.services
    (Toml.list? fun v => v.name?.bind Service.ofName?)
  let network ← Toml.fieldOr fields "network" standard.network Toml.string?
  let alternates ← Toml.fieldOr fields "alternate_addresses" .empty (Toml.map? AlternateSettings.ofToml?)
  return { hostname, services, network, alternates }

/-- The settings of a node as a table. -/
def toToml (n : NodeSettings) : Toml :=
  .table [
    ("hostname", .string n.hostname),
    ("services", .array (n.services.map fun s => .string s.name)),
    ("network", .string n.network),
    ("alternate_addresses", .table (n.alternates.entries.map fun (name, a) => (name, a.toToml)))]

/-- The settings of a node as an object. -/
def toJson (n : NodeSettings) : Json :=
  .obj [
    ("hostname", .str n.hostname),
    ("services", .arr (n.services.map fun s => .str s.name)),
    ("network", .str n.network),
    ("alternate_addresses", .obj (n.alternates.entries.map fun (name, a) => (name, a.toJson)))]

end NodeSettings

namespace BucketSettings

/-- Reads the settings of a bucket. -/
def ofToml? (v : Toml) : Option BucketSettings := do
  let fields ← v.record? ["name", "replicas", "vbuckets", "capabilities"]
  let name ← Toml.field? fields "name" Toml.string?
  let replicas ← Toml.fieldOr fields "replicas" (standard name).replicas (Toml.natUpTo? 4294967295)
  let vbuckets ← Toml.fieldOr fields "vbuckets" (standard name).vbuckets Toml.nat16?
  let capabilities ← Toml.fieldOr fields "capabilities" none fun v =>
    (v.list? fun v => v.name?.bind BucketCapability.ofName?).map fun cs => some (BucketCapability.normalize cs)
  return { name, replicas, vbuckets, capabilities }

/-- The settings of a bucket as a table. -/
def toToml (b : BucketSettings) : Toml :=
  .table ([
    ("name", .string b.name),
    ("replicas", .integer b.replicas),
    ("vbuckets", .integer b.vbuckets)]
    ++ (b.capabilities.map fun cs =>
      ("capabilities", Toml.array (cs.map fun c => .string c.name))).toList)

/-- The settings of a bucket as an object. -/
def toJson (b : BucketSettings) : Json :=
  .obj [
    ("name", .str b.name),
    ("replicas", .nat b.replicas),
    ("vbuckets", .nat b.vbuckets),
    ("capabilities", (b.capabilities.map fun cs => Json.arr (cs.map fun c => .str c.name)).getD .null)]

end BucketSettings

namespace Settings

/-- Reads how long a closing server waits. -/
def graceOfToml? (v : Toml) : Option Nat := do
  let fields ← v.record? ["shutdown_grace_ms"]
  Toml.fieldOr fields "shutdown_grace_ms" standard.shutdownGrace (Toml.natUpTo? 18446744073709551615)

/-- Reads how much is logged. -/
def logLevelOfToml? (v : Toml) : Option String := do
  let fields ← v.record? ["log_level"]
  Toml.fieldOr fields "log_level" standard.logLevel Toml.string?

/-- Reads all settings. -/
def ofToml? (fields : List (String × Toml)) : Option Settings := do
  let listeners ← Toml.fieldOr fields "listeners" standard.listeners ListenerSettings.ofToml?
  let shutdownGrace ← Toml.fieldOr fields "server" standard.shutdownGrace graceOfToml?
  let auth ← Toml.fieldOr fields "auth" standard.auth Credentials.ofToml?
  let logLevel ← Toml.fieldOr fields "telemetry" standard.logLevel logLevelOfToml?
  let nodes ← Toml.fieldOr fields "nodes" standard.nodes (Toml.list? NodeSettings.ofToml?)
  let buckets ← Toml.fieldOr fields "buckets" standard.buckets (Toml.list? BucketSettings.ofToml?)
  return { listeners, shutdownGrace, auth, logLevel, nodes, buckets }

/-- All settings as fields. -/
def toToml (s : Settings) : List (String × Toml) := [
  ("listeners", .table s.listeners.toToml),
  ("server", .table [("shutdown_grace_ms", .integer s.shutdownGrace)]),
  ("auth", .table s.auth.toToml),
  ("telemetry", .table [("log_level", .string s.logLevel)]),
  ("nodes", .array (s.nodes.map NodeSettings.toToml)),
  ("buckets", .array (s.buckets.map BucketSettings.toToml))]

/-- All settings as an object. -/
def toJson (s : Settings) : Json :=
  .obj [
    ("listeners", s.listeners.toJson),
    ("server", .obj [("shutdown_grace_ms", .nat s.shutdownGrace)]),
    ("auth", s.auth.toJson),
    ("telemetry", .obj [("log_level", .str s.logLevel)]),
    ("nodes", .arr (s.nodes.map NodeSettings.toJson)),
    ("buckets", .arr (s.buckets.map BucketSettings.toJson))]

/-- Reads settings from the text of a document. -/
def parse? (text : String) : Option Settings := (Toml.parse? text).bind ofToml?

end Settings

/-- Why settings cannot be loaded. -/
inductive LoadFault where
  /-- The text is no settings document. -/
  | unparsable
  /-- The settings are not valid. -/
  | invalid (fault : SettingsFault)
  deriving DecidableEq, Repr

/-- The messages for people, from the general to the particular; `subject` says what was read. -/
def LoadFault.messages (subject : String) : LoadFault → List String
  | unparsable => [s!"failed to parse {subject}", "TOML parse error"]
  | invalid fault => fault.messages

/-- Reads valid settings from a text. -/
def Settings.load (text : String) : Except LoadFault Settings :=
  match Settings.parse? text with
  | none => .error .unparsable
  | some s => match s.validate with
    | .ok () => .ok s
    | .error fault => .error (.invalid fault)

/-- The settings of a text, or the defaults if there is none, with replacements. -/
def Settings.resolve (text : Option String) (overrides : Option SettingsOverrides) : Except LoadFault Settings := do
  let s ← match text with
    | none => .ok .standard
    | some text => load text
  match overrides with
  | none => return s
  | some overrides =>
    let s := s.override overrides
    match s.validate with
    | .ok () => return s
    | .error fault => .error (.invalid fault)

end MockCluster
