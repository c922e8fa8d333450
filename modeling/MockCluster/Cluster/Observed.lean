import MockCluster.Cluster.Document

/-!
# A cluster under observation

A cluster with the states of it that were set aside under names, and the steps by which it is changed and looked at.
Every step answers with a reply and the revision that is current afterwards.
-/

namespace MockCluster

/-- A cluster: its current topology, and earlier ones that were set aside. -/
structure Cluster where
  /-- The current topology. -/
  topology : Topology
  /-- Topologies that were set aside, by name. -/
  saved : NameMap Topology
  deriving Inhabited

/-- A step on a cluster. The steps that look at a topology may name one that was set aside. -/
inductive ClusterStep where
  /-- Changes the topology. -/
  | mutate (mutation : Topology.Mutation)
  /-- Sets the current topology aside. -/
  | save (name : String)
  /-- Puts a saved topology back, unless a message of failure is given. -/
  | restore (name : String) (failure : Option String)
  /-- Reads the configuration of the cluster as seen by a node. -/
  | clusterConfig (requester : NodeId) (saved : Option String)
  /-- Reads the configuration of a bucket as seen by a node. -/
  | bucketConfig (bucket : String) (requester : NodeId) (saved : Option String)
  /-- Reads the whole topology. -/
  | read (saved : Option String)
  /-- Asks for the current revision. -/
  | revision
  /-- Asks for the active node of a vbucket. -/
  | activeNode (bucket : String) (vbucket : Nat) (saved : Option String)

/-- What a step yields. -/
inductive ClusterReply where
  /-- Nothing. -/
  | nothing
  /-- A node, if there is one. -/
  | node (id : Option NodeId)
  /-- A revision. -/
  | revision (revision : Nat)
  /-- A document. -/
  | document (bytes : Bytes)
  /-- A topology. -/
  | topology (topology : Topology)

namespace Cluster

/-- A cluster without nodes and buckets. -/
def initial : Cluster := ⟨.initial, .empty⟩

/-- The topology that a step looks at: the current one, or the one of the given name. -/
def view (c : Cluster) (name : Option String) : Topology :=
  (name.bind c.saved.get?).getD c.topology

/-- Publishes what an edit leaves. -/
def update {α : Type} (c : Cluster) (edit : Topology.Edit α) : Except Fault α × Cluster :=
  let (result, topology) := c.topology.update edit
  (result, { c with topology })

/-- The reply to a step, and the cluster afterwards. -/
def run (c : Cluster) : ClusterStep → Except Fault ClusterReply × Cluster
  | .mutate (.addNode hostname services) =>
    let (result, c) := c.update (Topology.Edit.addNode hostname services)
    (result.map fun id => .node (some id), c)
  | .mutate mutation =>
    let (result, c) := c.update mutation.edit
    (result.map fun _ => .nothing, c)
  | .save name => (.ok .nothing, { c with saved := c.saved.insert name c.topology })
  | .restore name failure =>
    let (result, c) := c.update (Topology.Edit.restore (c.view (some name)) (failure.map .handler))
    (result.map fun _ => .nothing, c)
  | .clusterConfig requester saved => (((c.view saved).clusterConfig requester).map .document, c)
  | .bucketConfig bucket requester saved => (((c.view saved).bucketConfig bucket requester).map .document, c)
  | .read saved => (.ok (.topology (c.view saved)), c)
  | .revision => (.ok (.revision c.topology.revision), c)
  | .activeNode bucket vbucket saved => (.ok (.node ((c.view saved).activeNode? bucket vbucket)), c)

/-- The cluster after a list of steps. -/
def runAll (c : Cluster) (steps : List ClusterStep) : Cluster :=
  steps.foldl (fun c step => (c.run step).2) c

end Cluster

end MockCluster
