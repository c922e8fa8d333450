import MockCluster.Kv.Hub
import MockCluster.Listener

/-!
# Servers for documents

The server of a node is a listener and the connections that it accepted. Counters and connection numbers go on when a
server is closed and started again.
-/

namespace MockCluster.Kv

/-- The server of a node. -/
structure Server (H : Type) where
  node : NodeId
  listener : Listener
  hub : Hub H

namespace Server

variable {H M : Type}

/-- A server that was never started. Port 0 stands for any port. -/
def create (node : NodeId) (address : IpAddress) (port : UInt16) : Server H :=
  ⟨node, .create s!"kv {node.name}" address port, .create⟩

/-- Starts the server. `bind` says which port a request for an endpoint gets. -/
def start (bind : Endpoint → Except String UInt16) (s : Server H) : Except Fault Unit × Server H :=
  match s.listener.start bind with
  | (.ok (), listener) => (.ok (), { s with listener, hub := s.hub.resume })
  | (.error fault, listener) => (.error fault, { s with listener })

/-- Closes the server and with it every connection that is not busy. -/
def closeBut (busy : ConnectionId → Bool) (s : Server H) : Except Fault Unit × Server H :=
  match s.listener.close with
  | (.ok (), listener) => (.ok (), { s with listener, hub := s.hub.stopBut busy })
  | (.error fault, listener) => (.error fault, { s with listener })

/-- Closes the server while no connection is busy. -/
def close (s : Server H) : Except Fault Unit × Server H := s.closeBut fun _ => false

/-- Starts the server on a host. -/
def startOn (host : Host) (s : Server H) : Except Fault Unit × Host × Server H :=
  let (result, s) := s.start host.bind
  (result, host.afterStart result s.listener, s)

/-- Closes the server on a host. -/
def closeOn (host : Host) (s : Server H) : Except Fault Unit × Host × Server H :=
  let (result, s) := s.close
  (result, host.afterClose result s.listener, s)

/-- Accepts a connection, if the server is running. -/
def accept (s : Server H) : Option (ConnectionId × Server H) :=
  if s.listener.running then
    let (id, hub) := s.hub.accept s.node
    some (id, { s with hub })
  else none

/-- A client connects, sends bytes, sends no more, and reads what it is sent. -/
def visit (behaviour : Behaviour H M) (s : Server H) (shared : Shared H M) (data : Bytes) :
    Option (Bytes × Server H × Shared H M) := do
  let (id, s) ← s.accept
  let (sent, hub, shared) ← s.hub.receive behaviour shared id data
  return (sent, { s with hub := hub.finish id }, shared)

/-- A client turns to the server on a host. -/
def contact (behaviour : Behaviour H M) (host : Host) (s : Server H) (shared : Shared H M) (data : Bytes) :
    Contact (Bytes × Server H × Shared H M) :=
  s.listener.contact host fun _ => s.visit behaviour shared data

end Server

end MockCluster.Kv
