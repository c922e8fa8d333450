import MockCluster.Kv.Connection

/-!
# The connections of a server

A hub accepts connections, numbers them and counts. A connection may also be opened under a number of one's choice.
When the hub is shut down all its connections end, and those that it accepts afterwards end before anything is received.
A connection that is still at work on something ends when that is done.
-/

namespace MockCluster.Kv

/-- The connections of a server. -/
structure Hub (H : Type) where
  /-- The number of the next connection. -/
  nextId : ConnectionId
  /-- The accepted connections with their numbers. -/
  connections : List (ConnectionId × Connection H)
  metrics : Metrics
  /-- Whether the hub was shut down. -/
  stopped : Bool

namespace Hub

variable {H M : Type}

/-- A hub without connections. -/
def create : Hub H := ⟨1, [], .zero, false⟩

/-- The connection of a number. -/
def connection? (hub : Hub H) (id : ConnectionId) : Option (Connection H) :=
  (hub.connections.find? (·.1 = id)).map (·.2)

/-- Puts a connection in the place of the one with a number. -/
def replace (hub : Hub H) (id : ConnectionId) (c : Connection H) : Hub H :=
  { hub with connections := hub.connections.map fun entry => if entry.1 = id then (id, c) else entry }

/-- Does something with the session of a connection, if there is one of this number. -/
def withSession {α : Type} (hub : Hub H) (shared : Shared H M) (id : ConnectionId)
    (f : Session H M → α × Session H M) : Option (α × Hub H × Shared H M) :=
  (hub.connection? id).map fun connection =>
    let (result, s) := f ⟨connection, shared, hub.metrics⟩
    (result, { hub.replace id s.connection with metrics := s.metrics }, s.shared)

/-- Whether bytes can be sent to a connection. If it has ended only no bytes at all can. -/
def takes (hub : Hub H) (id : ConnectionId) (data : Bytes) : Bool :=
  data.isEmpty || !(hub.connection? id).any (·.ended)

/-- Receives bytes on a connection and gives those that are sent in return. -/
def receive (behaviour : Behaviour H M) (hub : Hub H) (shared : Shared H M) (id : ConnectionId) (data : Bytes) :
    Option (Bytes × Hub H × Shared H M) :=
  hub.withSession shared id (·.receive behaviour data)

/-- The client of a connection sends no more: the connection ends. -/
def finish (hub : Hub H) (id : ConnectionId) : Hub H :=
  match hub.connection? id with
  | none => hub
  | some connection =>
    if connection.ended then hub
    else { hub.replace id { connection with waiting := none } with metrics := hub.metrics.finish }

/-- Opens a connection at a node under a number. The connection that had this number before ends and is forgotten. -/
def connect (hub : Hub H) (id : ConnectionId) (node : NodeId) : Hub H :=
  let hub := hub.finish id
  let opened := Connection.create (Client.create id node)
  let (connection, metrics) :=
    if hub.stopped then ({ opened with waiting := none }, hub.metrics.accept.finish)
    else (opened, hub.metrics.accept)
  { hub with
    nextId := max hub.nextId (id + 1)
    connections := hub.connections.filter (·.1 ≠ id) ++ [(id, connection)]
    metrics }

/-- Accepts a connection at a node and gives its number, which no connection had before. -/
def accept (hub : Hub H) (node : NodeId) : ConnectionId × Hub H := (hub.nextId, hub.connect hub.nextId node)

/-- Shuts the hub down: every connection ends that is not busy. -/
def stopBut (busy : ConnectionId → Bool) (hub : Hub H) : Hub H :=
  { (hub.connections.filter fun entry => !busy entry.1).foldl (fun hub entry => hub.finish entry.1) hub with
    stopped := true }

/-- Shuts the hub down while no connection is busy. -/
def stop (hub : Hub H) : Hub H := hub.stopBut fun _ => false

/-- Lets new connections stay open again. -/
def resume (hub : Hub H) : Hub H := { hub with stopped := false }

end Hub

end MockCluster.Kv
