import MockCluster.Kv.Dispatch

/-!
# Connections side by side

Several connections with what they share. A request on one connection is dispatched with the state of that connection
and leaves the other connections alone.
-/

namespace MockCluster.Kv

/-- Connections and what they share. -/
structure World (H M : Type) where
  clients : List (Client H)
  shared : Shared H M

/-- What became of a request. -/
structure Answer where
  /-- Whether there is a response, or why the handlers failed; the message if they broke off. -/
  result : Except String (Except Fault Bool)
  /-- The response. -/
  response : Option Packet
  /-- How long the response is held back, in milliseconds. -/
  delay : Option Nat
  /-- Whether the connection shall be dropped. -/
  disconnect : Bool

namespace World

variable {H M : Type}

/-- Replaces a connection and what is shared. -/
def put (w : World H M) (index : Nat) (ex : Exchange H M) : World H M :=
  ⟨w.clients.set index ex.client, ex.shared⟩

/-- Does something with the state of one connection, if there is such a connection. -/
def withClient {α : Type} (w : World H M) (index : Nat) (f : Exchange H M → α × Exchange H M) :
    Option (α × World H M) :=
  w.clients[index]?.map fun client =>
    let (result, ex) := f (.start client w.shared)
    (result, w.put index ex)

/-- What became of a request, from how its dispatch ended. -/
def answerOf (outcome : Outcome (Exchange H M) (Except Fault Bool)) : Answer × Exchange H M :=
  let ex := outcome.world
  let result := match outcome with
    | .returned _ result => .ok result
    | .panicked _ message => .error message
  (⟨result, ex.response, ex.delay, ex.disconnect⟩, ex)

/-- Dispatches a packet on a connection. -/
def dispatch (behaviour : Behaviour H M) (w : World H M) (index : Nat) (p : Packet) :
    Option (Answer × World H M) :=
  w.withClient index fun ex => answerOf (Kv.dispatch behaviour ex p)

end World

end MockCluster.Kv
