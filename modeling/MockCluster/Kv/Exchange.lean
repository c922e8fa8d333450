import MockCluster.Binary.Feature
import MockCluster.Cluster.Topology
import MockCluster.Expectation.Chain
import MockCluster.Expectation.Scope
import MockCluster.Kv.Matcher

/-!
# Exchanges

What the handlers of one request can see and change: the connection it came in on, what all connections share, and the
response so far. `H` stands for whatever describes a handler, and `M` for a memory that handlers share.
-/

namespace MockCluster

/-- The number of a connection. -/
abbrev ConnectionId := Nat

/-- The name of a connection. -/
def ConnectionId.name (id : ConnectionId) : String := s!"conn-{id}"

/-- A list of features as a set: each once, in ascending order of codes. -/
def Feature.normalize (features : List Feature) : List Feature := Feature.all.filter (· ∈ features)

@[simp] theorem Feature.mem_normalize {f : Feature} {features : List Feature} :
    f ∈ Feature.normalize features ↔ f ∈ features := by
  simp [Feature.normalize, Feature.mem_all]

namespace Kv

/-- A registered expectation: which packets it is for, and what happens then. -/
structure Rule (H : Type) where
  matcher : Matcher
  handler : H
  deriving DecidableEq, Repr

/-- The state of one connection. -/
structure Client (H : Type) where
  /-- The number of the connection. -/
  id : ConnectionId
  /-- The node that accepted the connection. -/
  node : NodeId
  /-- The selected bucket. -/
  bucket : Option String
  /-- The features agreed on, each once. -/
  features : List Feature
  /-- The authenticated user. -/
  user : Option String
  /-- The expectations for this connection only. -/
  own : Scope (Rule H)

/-- A new connection. -/
def Client.create {H : Type} (id : ConnectionId) (node : NodeId) : Client H :=
  ⟨id, node, none, [], none, .empty⟩

/-- What all connections share. -/
structure Shared (H M : Type) where
  /-- Expectations that come before the built-in services. -/
  overrides : Scope (Rule H)
  /-- The built-in services. -/
  defaults : Scope (Rule H)
  /-- The current topology. -/
  topology : Topology
  /-- The memory of the handlers. -/
  memory : M

/-- The state during one request. -/
structure Exchange (H M : Type) where
  client : Client H
  shared : Shared H M
  /-- The response, if one was written. -/
  response : Option Packet
  /-- How long the response is held back, in milliseconds. -/
  delay : Option Nat
  /-- Whether the connection shall be dropped. -/
  disconnect : Bool

/-- The scopes that a request goes through, the most specific first. -/
inductive Layer where
  | connection
  | overrides
  | defaults
  deriving DecidableEq, Repr, Inhabited

/-- Every layer, in the order in which requests go through them. -/
def Layer.all : List Layer := [connection, overrides, defaults]

namespace Exchange

variable {H M : Type}

/-- The state when a request comes in. -/
def start (client : Client H) (shared : Shared H M) : Exchange H M :=
  ⟨client, shared, none, none, false⟩

/-- The scope of a layer. -/
def scope (ex : Exchange H M) : Layer → Scope (Rule H)
  | .connection => ex.client.own
  | .overrides => ex.shared.overrides
  | .defaults => ex.shared.defaults

/-- Replaces the scope of a layer. -/
def setScope (ex : Exchange H M) (layer : Layer) (scope : Scope (Rule H)) : Exchange H M :=
  match layer with
  | .connection => { ex with client := { ex.client with own := scope } }
  | .overrides => { ex with shared := { ex.shared with overrides := scope } }
  | .defaults => { ex with shared := { ex.shared with defaults := scope } }

/-- Writes the response. Only one can be held at a time. -/
def write (ex : Exchange H M) (p : Packet) : Except Fault (Exchange H M) :=
  match ex.response with
  | some held => .error (.responseAlreadyWritten held.opaqueId)
  | none => .ok { ex with response := some p }

/-- Takes the response back. -/
def takeResponse (ex : Exchange H M) : Exchange H M := { ex with response := none }

/-- Ends a handler with a response. If one is held already, nothing changes and the handler fails. -/
def answer (ex : Exchange H M) (p : Packet) : Outcome (Exchange H M) (Except Fault Unit) :=
  match ex.write p with
  | .ok ex => .returned ex (.ok ())
  | .error fault => .returned ex (.error fault)

end Exchange

end Kv

end MockCluster
