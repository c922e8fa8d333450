import MockCluster.Settings.Basic
import MockCluster.Text.IpAddress

/-!
# Valid settings

What settings must satisfy before a deployment is made from them. `Settings.validate` gives the first fault, in the
order listeners, logging, nodes, buckets.
-/

namespace MockCluster

/-- Which of the two port settings is meant. -/
inductive PortBase where
  | kv
  | http
  deriving DecidableEq, Repr

/-- The name of a port setting. -/
def PortBase.name : PortBase → String
  | kv => "kv_port_base"
  | http => "http_port_base"

/-- Why settings are not valid. -/
inductive SettingsFault where
  | badBind (text : String)
  | zeroPortBase (setting : PortBase)
  | noRoom (setting : PortBase) (base nodes : Nat)
  | badLogLevel (text : String)
  | noNodes
  | noKvNode
  | emptyHostname (node : Nat)
  | unknownService (node : Nat) (name : String)
  | unmatchedNetwork (node : Nat) (network : String)
  | emptyBucketName
  | duplicateBucket (name : String)
  | noVbuckets (bucket : String)
  | tooManyReplicas (bucket : String) (replicas : Nat)
  deriving DecidableEq, Repr

/-- The levels of logging. -/
def logLevels : List String := ["trace", "debug", "info", "warn", "error"]

/-- The message about a name among the ports of an address that is no service. -/
def SettingsFault.unknownServiceMessage (name : String) : String := s!"unknown service in alternate ports: {name}"

/-- The messages for people, from the general to the particular. -/
def SettingsFault.messages : SettingsFault → List String
  | badBind text => [s!"invalid listeners.bind address: {text}", "invalid IP address syntax"]
  | zeroPortBase setting => [s!"listeners.{setting.name} must be > 0"]
  | noRoom setting base nodes => [s!"listeners.{setting.name} ({base}) leaves no room for {nodes} nodes"]
  | badLogLevel text =>
    ["telemetry.log_level must be one of [\"trace\", \"debug\", \"info\", \"warn\", \"error\"], got: " ++ text]
  | noNodes => ["at least one node is required"]
  | noKvNode => ["at least one node must run the kv service"]
  | emptyHostname node => [s!"nodes[{node}].hostname must not be empty"]
  | unknownService node name =>
    [s!"invalid alternate address on nodes[{node}]", unknownServiceMessage name]
  | unmatchedNetwork node network =>
    ["nodes[" ++ toString node ++ "].network '" ++ network ++ "' has no matching alternate address"]
  | emptyBucketName => ["bucket name must not be empty"]
  | duplicateBucket name => [s!"duplicate bucket: {name}"]
  | noVbuckets bucket => [s!"buckets.{bucket}.vbuckets must be > 0"]
  | tooManyReplicas bucket replicas => [s!"buckets.{bucket}.replicas must be at most 3, got: {replicas}"]

/-- The ports with one for the service of a name; a name of no service changes nothing. -/
def PortMap.insertNamed (ports : PortMap) (name : String) (port : Nat) : PortMap :=
  match Service.ofName? name with
  | some service => ports.insert service (UInt16.ofNat port)
  | none => ports

namespace AlternateSettings

/-- The first name among the ports that is no service. -/
def unknownService? (a : AlternateSettings) : Option String :=
  a.ports.names.find? fun name => (Service.ofName? name).isNone

/-- The address that the settings describe. -/
def address (a : AlternateSettings) : Address where
  hostname := a.hostname
  ports := a.ports.entries.foldl (fun ports (name, port) => ports.insertNamed name port) .empty

/-- The address that the settings describe, or the first name among its ports that is no service. -/
def address? (a : AlternateSettings) : Except String Address :=
  match a.unknownService? with
  | some name => .error name
  | none => .ok a.address

end AlternateSettings

/-- The fault in a port setting, given the number of nodes. -/
def PortBase.fault? (setting : PortBase) (nodes : Nat) : Option Nat → Option SettingsFault
  | none => none
  | some base =>
    if base = 0 then some (.zeroPortBase setting)
    else if 65536 < base + nodes then some (.noRoom setting base nodes)
    else none

/-- The first fault in the settings of a node. -/
def NodeSettings.fault? (n : NodeSettings) (index : Nat) : Option SettingsFault :=
  if n.hostname = "" then some (.emptyHostname index)
  else match n.alternates.values.findSome? (·.unknownService?) with
    | some name => some (.unknownService index name)
    | none =>
      if n.network ≠ "default" ∧ !n.alternates.contains n.network then some (.unmatchedNetwork index n.network)
      else none

/-- The first fault in the settings of a bucket, given the names of the buckets before it. -/
def BucketSettings.fault? (b : BucketSettings) (earlier : List String) : Option SettingsFault :=
  if b.name = "" then some .emptyBucketName
  else if b.name ∈ earlier then some (.duplicateBucket b.name)
  else if b.vbuckets = 0 then some (.noVbuckets b.name)
  else if 3 < b.replicas then some (.tooManyReplicas b.name b.replicas)
  else none

namespace Settings

/-- The parsed address to listen on. -/
def bindAddress (s : Settings) : Except SettingsFault IpAddress :=
  match IpAddress.ofString? s.listeners.bind with
  | some address => .ok address
  | none => .error (.badBind s.listeners.bind)

/-- The first fault in the listeners. -/
def listenersFault? (s : Settings) : Option SettingsFault :=
  match s.bindAddress with
  | .error fault => some fault
  | .ok _ =>
    (PortBase.kv.fault? s.nodes.length s.listeners.kvPortBase).or
      (PortBase.http.fault? s.nodes.length s.listeners.httpPortBase)

/-- The first fault in the nodes. -/
def nodesFault? (s : Settings) : Option SettingsFault :=
  if s.nodes.isEmpty then some .noNodes
  else if !s.nodes.any fun n => n.services.contains .kv then some .noKvNode
  else s.nodes.zipIdx.findSome? fun (n, index) => n.fault? index

/-- The first fault in the buckets. -/
def bucketsFault? (s : Settings) : Option SettingsFault :=
  s.buckets.zipIdx.findSome? fun (b, index) => b.fault? ((s.buckets.take index).map (·.name))

/-- The first fault in the settings. -/
def fault? (s : Settings) : Option SettingsFault :=
  s.listenersFault?
    |>.or (if s.logLevel ∈ logLevels then none else some (.badLogLevel s.logLevel))
    |>.or s.nodesFault?
    |>.or s.bucketsFault?

/-- Accepts settings without faults. -/
def validate (s : Settings) : Except SettingsFault Unit :=
  match s.fault? with
  | none => .ok ()
  | some fault => .error fault

end Settings

end MockCluster
