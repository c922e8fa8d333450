import MockCluster.Deployment.Assembly
import MockCluster.Http.Builtin
import MockCluster.Kv.Server

/-!
# Deployments

A deployment is a cluster made from settings, with the built-in services as defaults. Starting it gives every node the
servers for its services and publishes their ports in the topology; if one of them cannot be started, those that were
are closed again.
-/

namespace MockCluster

/-- The servers of a node. -/
structure NodeServers (K : Type) where
  node : NodeId
  /-- The server for documents, if the node runs one. -/
  kv : Option (Kv.Server K)
  /-- The listener for administration, if the node runs one. -/
  http : Option Listener

/-- Why a deployment could not be started. -/
inductive StartFault where
  /-- It is running. -/
  | alreadyStarted
  /-- The address to listen on is none. -/
  | settings (fault : SettingsFault)
  /-- A server could not be started. -/
  | server (service : Service) (node : NodeId) (fault : Fault)
  /-- The port of a server could not be published. -/
  | unpublished (fault : Fault)

/-- The messages for people, from the general to the particular. -/
def StartFault.messages : StartFault → List String
  | alreadyStarted => ["runtime already started"]
  | settings fault => fault.messages
  | server service node fault => s!"failed to start {service.name} server for {node.name}" :: fault.chain
  | unpublished fault => fault.chain

/-- Why a deployment was not stopped in order: a server could not be closed. -/
structure StopFault where
  service : Service
  node : NodeId
  fault : Fault
  deriving DecidableEq, Repr

/-- The messages for people, from the general to the particular. -/
def StopFault.messages (f : StopFault) : List String :=
  s!"failed to close {f.service.name} server for {f.node.name}" :: f.fault.chain

/-- A cluster with its servers. `K` and `R` stand for whatever describes handlers of packets and of HTTP requests, and
`M` for a memory that handlers share. -/
structure Deployment (K R M : Type) where
  settings : Settings
  /-- The nodes of the settings, in order. -/
  nodes : List NodeId
  /-- What all connections for documents share; the topology is the one of the whole deployment. -/
  shared : Kv.Shared K M
  /-- HTTP expectations that come before the built-in routes. -/
  routeOverrides : Scope (Http.Rule R)
  /-- The built-in routes. -/
  routeDefaults : Scope (Http.Rule R)
  /-- The servers of every node, while the deployment is running. -/
  servers : List (NodeServers K)

namespace Deployment

variable {K R M : Type}

/-- The deployment of valid settings, which is not running. -/
def create (service : Kv.Builtin → K) (route : Http.Builtin → R) (memory : M) (s : Settings) :
    Except AssemblyFault (Deployment K R M) := do
  s.validate.mapError .settings
  let (nodes, topology) ← (Assembly.ofSettings s).run .initial
  return {
    settings := s
    nodes
    shared := {
      overrides := .empty
      defaults := Kv.Builtin.registerAll s.auth service .empty
      topology
      memory }
    routeOverrides := .empty
    routeDefaults := Http.Builtin.registerAll route .empty
    servers := [] }

/-- Whether the deployment is running. -/
def isRunning (d : Deployment K R M) : Bool := !d.servers.isEmpty

/-- What handlers of HTTP requests can reach. -/
def world (d : Deployment K R M) : Http.World R M :=
  ⟨d.routeOverrides, d.routeDefaults, d.shared.topology, d.shared.memory⟩

/-- The deployment after handlers of HTTP requests have run. -/
def setWorld (d : Deployment K R M) (w : Http.World R M) : Deployment K R M :=
  { d with
    routeOverrides := w.overrides
    routeDefaults := w.defaults
    shared := { d.shared with topology := w.topology, memory := w.memory } }

/-- The servers of a node. -/
def serversOf (d : Deployment K R M) (node : NodeId) : Option (NodeServers K) :=
  d.servers.find? (·.node = node)

/-- The server for documents of a node. -/
def kvServer? (d : Deployment K R M) (node : NodeId) : Option (Kv.Server K) := do (← d.serversOf node).kv

/-- The listener for administration of a node. -/
def httpListener? (d : Deployment K R M) (node : NodeId) : Option Listener := do (← d.serversOf node).http

/-- The port for documents of a node. -/
def kvPort? (d : Deployment K R M) (node : NodeId) : Option UInt16 := (d.kvServer? node).map (·.listener.port)

/-- The port for administration of a node. -/
def httpPort? (d : Deployment K R M) (node : NodeId) : Option UInt16 := (d.httpListener? node).map (·.port)

/-- Whether the topology names the ports of all servers and no others. -/
def portsPublished (d : Deployment K R M) : Bool :=
  d.nodes.all fun id =>
    match d.shared.topology.node? id with
    | none => false
    | some node =>
      node.defaultAddress.ports.get? .kv = d.kvPort? id && node.defaultAddress.ports.get? .mgmt = d.httpPort? id

/-- Changes the servers of a node. -/
def modifyServers (d : Deployment K R M) (node : NodeId) (f : NodeServers K → NodeServers K) : Deployment K R M :=
  { d with servers := d.servers.map fun s => if s.node = node then f s else s }

/-- The port for the node at a place, given the port of the first. Port 0 stands for any port. -/
def portAt (base : Option Nat) (index : Nat) : UInt16 :=
  match base with
  | none => 0
  | some base => UInt16.ofNat (base + index)

/-- A part of starting a deployment on a host. What was done before a fault stays done. -/
abbrev Launch (K R M : Type) := EStateM StartFault (Host × Deployment K R M)

namespace Launch

/-- Publishes the port of a service. -/
def publish (node : NodeId) (service : Service) (port : UInt16) : Launch K R M Unit := do
  let (host, d) ← get
  match d.shared.topology.update (Topology.Edit.setPort node service port) with
  | (.ok (), topology) => set (host, { d with shared := { d.shared with topology } })
  | (.error fault, _) => throw (.unpublished fault)

/-- Starts the server for documents of a node. -/
def startKv (address : IpAddress) (node : NodeId) (port : UInt16) : Launch K R M Unit := do
  let (host, d) ← get
  match (Kv.Server.create node address port).startOn host with
  | (.error fault, _) => throw (.server .kv node fault)
  | (.ok (), host, server) =>
    set (host, d.modifyServers node ({ · with kv := some server }))
    publish node .kv server.listener.port

/-- Starts the listener for administration of a node. -/
def startHttp (address : IpAddress) (node : NodeId) (port : UInt16) : Launch K R M Unit := do
  let (host, d) ← get
  match host.start (.create s!"mgmt {node.name}" address port) with
  | (.error fault, _) => throw (.server .mgmt node fault)
  | (.ok (), host, listener) =>
    set (host, d.modifyServers node ({ · with http := some listener }))
    publish node .mgmt listener.port

/-- Starts the servers of the node at a place. -/
def startNode (address : IpAddress) (index : Nat) (node : NodeId) (n : NodeSettings) : Launch K R M Unit := do
  let (host, d) ← get
  set (host, { d with servers := d.servers ++ [(⟨node, none, none⟩ : NodeServers K)] })
  if n.services.contains .kv then startKv address node (portAt d.settings.listeners.kvPortBase index)
  if n.services.contains .mgmt then startHttp address node (portAt d.settings.listeners.httpPortBase index)

/-- Starts the servers of the nodes, the first of which is at a place. -/
def startNodes (address : IpAddress) : Nat → List (NodeId × NodeSettings) → Launch K R M Unit
  | _, [] => pure ()
  | index, (node, n) :: rest => do
    startNode address index node n
    startNodes address (index + 1) rest

end Launch

/-- Closes the server for documents of a node, if there is one. -/
def closeKv (host : Host) (node : NodeId) : Option (Kv.Server K) → Except StopFault Unit × Host
  | none => (.ok (), host)
  | some s =>
    let (result, host, _) := s.closeOn host
    (result.mapError (⟨.kv, node, ·⟩), host)

/-- Closes the listener for administration of a node, if there is one. -/
def closeHttp (host : Host) (node : NodeId) : Option Listener → Except StopFault Unit × Host
  | none => (.ok (), host)
  | some l =>
    let (result, host, _) := host.close l
    (result.mapError (⟨.mgmt, node, ·⟩), host)

/-- Closes the servers of a node. If the first one cannot be closed, the other one is let go. -/
def closeNode (host : Host) (s : NodeServers K) : Except StopFault Unit × Host :=
  match closeKv host s.node s.kv with
  | (.ok (), host) => closeHttp host s.node s.http
  | (.error fault, host) => (.error fault, (closeHttp host s.node s.http).2)

/-- Closes servers, node by node. If one cannot be closed, those of the nodes behind it are let go. -/
def closeAll (host : Host) : List (NodeServers K) → Except StopFault Unit × Host
  | [] => (.ok (), host)
  | s :: rest =>
    match closeNode host s with
    | (.ok (), host) => closeAll host rest
    | (.error fault, host) => (.error fault, rest.foldl (fun host s => (closeNode host s).2) host)

/-- Closes every server. The topology stays as it is. -/
def stop (host : Host) (d : Deployment K R M) : Except StopFault Unit × Host × Deployment K R M :=
  let (result, host) := closeAll host d.servers
  (result, host, { d with servers := [] })

/-- Starts the servers of every node. If that fails, those that were started are closed again; a fault of closing is not
reported. -/
def start (host : Host) (d : Deployment K R M) : Except StartFault Unit × Host × Deployment K R M :=
  if d.isRunning then (.error .alreadyStarted, host, d)
  else match d.settings.bindAddress with
    | .error fault => (.error (.settings fault), host, d)
    | .ok address =>
      match (Launch.startNodes address 0 (d.nodes.zip d.settings.nodes)).run (host, d) with
      | .ok () (host, d) => (.ok (), host, d)
      | .error fault (host, d) => (.error fault, (d.stop host).2)

/-- A client turns to the server for documents of a node. -/
def contactKv (behaviour : Kv.Behaviour K M) (host : Host) (d : Deployment K R M) (node : NodeId) (data : Bytes) :
    Contact (Bytes × Deployment K R M) :=
  match d.kvServer? node with
  | none => .nobody
  | some server =>
    match server.contact behaviour host d.shared data with
    | .nobody => .nobody
    | .refused => .refused
    | .answered (sent, server, shared) =>
      .answered (sent, { d with shared }.modifyServers node ({ · with kv := some server }))

/-- A client sends a request to the listener for administration of a node. -/
def contactHttp (behaviour : Http.Behaviour R M) (host : Host) (d : Deployment K R M) (node : NodeId)
    (request : Unit → Http.Request) : Contact (Http.Response × Deployment K R M) :=
  match d.httpListener? node with
  | none => .nobody
  | some listener => listener.contact host fun _ =>
    let (response, w) := Http.serve behaviour node d.world (request ())
    some (response, d.setWorld w)

end Deployment

end MockCluster
