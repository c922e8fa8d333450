import MockCluster.Deployment
import MockCluster.Http.Script
import MockCluster.Kv.Script
import MockCluster.Kv.World

/-!
# Deployments with scripted handlers

A deployment whose handlers are built-in services and scripts. It can be driven without any server: packets and
requests are dispatched, expectations are registered, and the journal of the scripts is read.
-/

namespace MockCluster.Script

/-- A deployment whose handlers are built-in services and scripts. -/
abbrev Stage := Deployment Kv.Handler Http.Handler Memory

namespace Stage

/-- The stage of valid settings. -/
def create (s : Settings) : Except AssemblyFault Stage := Deployment.create .builtin .builtin Memory.empty s

/-- Why the servers for some settings cannot be started on a host. -/
def startFailure? (host : Host) (s : Settings) : Option (List String) :=
  match create s with
  | .error fault => some fault.messages
  | .ok stage =>
    match stage.start host with
    | (.ok (), _) => none
    | (.error fault, _) => some fault.messages

/-- The stage of a cluster that no settings stand behind, with or without the built-in services. -/
def ofCluster (c : Cluster) (builtins : Bool) (credentials : Credentials) : Stage where
  settings := .standard
  nodes := []
  shared := {
    overrides := .empty
    defaults := if builtins then Kv.Builtin.registerAll credentials .builtin .empty else .empty
    topology := c.topology
    memory := { Memory.empty with saved := c.saved } }
  routeOverrides := .empty
  routeDefaults := if builtins then Http.Builtin.registerAll .builtin .empty else .empty
  servers := []

/-- Takes a step on the cluster. -/
def runStep (stage : Stage) (step : ClusterStep) : Except Fault ClusterReply × Stage :=
  let (reply, topology, memory) := stage.shared.memory.runStep stage.shared.topology step
  (reply, { stage with shared := { stage.shared with topology, memory } })

/-- A request to a scope that belongs to no single connection. -/
def manage (stage : Stage) (request : Kv.Manage Kv.Script) : Except Fault Managed × Stage :=
  let (result, ex) := request.run (.start (.create 0 0) stage.shared)
  (result, { stage with shared := ex.shared })

/-- A request to a scope of routes. -/
def manageRoutes (stage : Stage) (request : Http.Manage Http.Script) : Except Fault Managed × Stage :=
  let (result, w) := request.run stage.world
  (result, stage.setWorld w)

/-- Dispatches an HTTP request at a node. -/
def request (stage : Stage) (node : NodeId) (r : Http.Request) : Except String (Option Http.Response) × Stage :=
  match Http.dispatch Http.Handler.behaviour node stage.world r with
  | .returned w response => (.ok response, stage.setWorld w)
  | .panicked w message => (.error message, stage.setWorld w)

/-- Reads the journal of the scripts that answer packets and begins a new one. -/
def takePacketNotes (stage : Stage) : List Note × Stage :=
  let memory := stage.shared.memory
  (memory.packets.journal, { stage with shared := { stage.shared with memory := memory.onPackets (·.turn) } })

/-- Reads the journal of the scripts that answer requests and begins a new one. -/
def takeRequestNotes (stage : Stage) : List Note × Stage :=
  let memory := stage.shared.memory
  (memory.requests.journal, { stage with shared := { stage.shared with memory := memory.onRequests (·.turn) } })

end Stage

end MockCluster.Script
