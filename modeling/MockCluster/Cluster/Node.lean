import MockCluster.NameMap
import MockCluster.Cluster.Service

/-!
# Nodes

A node has an address on the default network and may have one on each of several named networks. It advertises one
network to the clients that connect to it. There is no fallback: on a network where it has no address, a node has none.
-/

namespace MockCluster

/-- The number of a node. -/
abbrev NodeId := Nat

/-- The name of a node. -/
def NodeId.name (id : NodeId) : String := s!"node-{id}"

/-- A family of addresses. -/
inductive Network where
  /-- The network on which every node has an address. -/
  | default
  /-- A named network. -/
  | alternate (name : String)
  deriving DecidableEq, Repr, Inhabited

namespace Network

/-- The network of a name in settings; the empty name and "default" mean the default network. -/
def ofName (name : String) : Network :=
  if name = "" ∨ name = "default" then .default else .alternate name

/-- The name of a network. -/
def name : Network → String
  | .default => "default"
  | .alternate name => name

end Network

/-- A host with ports. -/
structure Address where
  /-- The host's name or address text. -/
  hostname : String
  /-- The ports of its services. -/
  ports : PortMap
  deriving Inhabited

/-- A member of the cluster. -/
structure Node where
  /-- The number of the node. -/
  id : NodeId
  /-- The services that the node runs, each once. -/
  services : List Service
  /-- The network that the node advertises to its clients. -/
  network : Network
  /-- The address on the default network. -/
  defaultAddress : Address
  /-- The addresses on the named networks. -/
  alternates : NameMap Address
  deriving Inhabited

namespace Node

/-- A node without ports, on the default network only. -/
def create (id : NodeId) (hostname : String) (services : List Service) : Node where
  id := id
  services := Service.normalize services
  network := .default
  defaultAddress := ⟨hostname, .empty⟩
  alternates := .empty

/-- Whether the node runs a service. -/
def runs (node : Node) (service : Service) : Bool := service ∈ node.services

/-- The address on a network. -/
def address? (node : Node) : Network → Option Address
  | .default => some node.defaultAddress
  | .alternate name => node.alternates.get? name

/-- Gives a service a port on the default address. -/
def setPort (node : Node) (service : Service) (port : UInt16) : Node :=
  { node with defaultAddress :=
    { node.defaultAddress with ports := node.defaultAddress.ports.insert service port } }

/-- Gives the node an address on a named network. -/
def setAlternate (node : Node) (network : String) (address : Address) : Node :=
  { node with alternates := node.alternates.insert network address }

/-- Chooses the network that the node advertises. -/
def setNetwork (node : Node) (network : Network) : Node :=
  { node with network }

end Node

end MockCluster
