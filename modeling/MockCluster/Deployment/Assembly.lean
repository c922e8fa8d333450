import MockCluster.Cluster.Topology
import MockCluster.Settings.Validity

/-!
# Making a cluster from settings

The cluster of some settings is assembled step by step on a topology: each node is added, given its addresses on the
named networks and told which network to advertise, in the order of the settings; then each bucket is added. Every step
publishes a topology of its own. The first fault ends the assembly.
-/

namespace MockCluster

/-- Why a deployment could not be made. -/
inductive AssemblyFault where
  /-- The settings are not valid. -/
  | settings (fault : SettingsFault)
  /-- A node could not be added. -/
  | node (hostname : String) (fault : Fault)
  /-- A port of an alternate address is for no service. -/
  | unknownService (name : String)
  /-- A node could not be given an address or a network. -/
  | unset (fault : Fault)
  /-- A bucket could not be added. -/
  | bucket (name : String) (fault : Fault)
  deriving DecidableEq, Repr

/-- The messages for people, from the general to the particular. -/
def AssemblyFault.messages : AssemblyFault → List String
  | settings fault => "invalid configuration" :: fault.messages
  | node hostname fault => s!"failed to add node {hostname}" :: fault.chain
  | unknownService name => [SettingsFault.unknownServiceMessage name]
  | unset fault => fault.chain
  | bucket name fault => s!"failed to create bucket {name}" :: fault.chain

/-- A part of making a cluster. -/
abbrev Assembly := StateT Topology (Except AssemblyFault)

namespace Assembly

/-- Publishes what an edit leaves. -/
def publish {α : Type} (asFault : Fault → AssemblyFault) (edit : Topology.Edit α) : Assembly α := fun t =>
  match t.update edit with
  | (.ok result, next) => .ok (result, next)
  | (.error fault, _) => .error (asFault fault)

/-- Gives a node an address on a named network. -/
def setAlternate (id : NodeId) (network : String) (a : AlternateSettings) : Assembly Unit :=
  match a.address? with
  | .ok address => publish .unset (Topology.Edit.setAlternate id network address)
  | .error name => throw (.unknownService name)

/-- Gives a node all its addresses on named networks, in the order of the names. -/
def setAlternates (id : NodeId) : List (String × AlternateSettings) → Assembly Unit
  | [] => pure ()
  | (network, a) :: rest => do
    setAlternate id network a
    setAlternates id rest

/-- Chooses the network that a node advertises. Nothing is published for the one that it advertises from the start. -/
def setNetwork (id : NodeId) (network : Network) : Assembly Unit :=
  if network = .default then pure () else publish .unset (Topology.Edit.setNetwork id network)

/-- Adds a node and gives its number. -/
def addNode (n : NodeSettings) : Assembly NodeId := do
  let id ← publish (.node n.hostname) (Topology.Edit.addNode n.hostname n.services)
  setAlternates id n.alternates.entries
  setNetwork id (.ofName n.network)
  return id

/-- Adds nodes and gives their numbers. -/
def addNodes : List NodeSettings → Assembly (List NodeId)
  | [] => pure []
  | n :: rest => do
    let id ← addNode n
    let ids ← addNodes rest
    return id :: ids

/-- Adds buckets. -/
def addBuckets : List BucketSettings → Assembly Unit
  | [] => pure ()
  | b :: rest => do
    publish (.bucket b.name) (Topology.Edit.addBucket b.spec)
    addBuckets rest

/-- Makes the cluster of some settings and gives the numbers of its nodes. -/
def ofSettings (s : Settings) : Assembly (List NodeId) := do
  let ids ← addNodes s.nodes
  addBuckets s.buckets
  return ids

end Assembly

end MockCluster
