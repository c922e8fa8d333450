import MockCluster.Cluster.Bucket
import MockCluster.Fault

/-!
# Topology

One state of the cluster: its nodes, its buckets and a revision. An `Edit` changes a topology or fails; `update`
publishes what an edit leaves under the next revision, and publishes nothing if it fails. The named edits keep the
vbucket maps in step with the nodes that hold documents.
-/

namespace MockCluster

/-- What a bucket is created from. -/
structure BucketSpec where
  /-- The name. -/
  name : String
  /-- The number of replicas. -/
  replicas : Nat
  /-- The number of vbuckets. -/
  vbuckets : Nat
  /-- What the bucket announces; everything if not given. -/
  capabilities : Option (List BucketCapability)
  deriving DecidableEq, Repr, Inhabited

/-- One state of the cluster. -/
structure Topology where
  /-- The number of this state. -/
  revision : Nat
  /-- The number that the next node will get. -/
  nextNode : NodeId
  /-- The nodes in cluster order. -/
  nodes : List Node
  /-- The buckets by name. -/
  buckets : NameMap Bucket
  /-- What the services of the cluster announce. -/
  capabilities : NameMap (List String)
  deriving Inhabited

namespace Topology

/-- A cluster without nodes and buckets. -/
def initial : Topology where
  revision := 1
  nextNode := 0
  nodes := []
  buckets := .empty
  capabilities := .ofList [("n1ql", ["enhancedPreparedStatements", "costBasedOptimizer"])]

/-- The node of a number. -/
def node? (t : Topology) (id : NodeId) : Option Node := t.nodes.find? (·.id = id)

/-- The place of a node in cluster order. -/
def nodeIndex? (t : Topology) (id : NodeId) : Option Nat := t.nodes.findIdx? (·.id = id)

/-- The bucket of a name. -/
def bucket? (t : Topology) (name : String) : Option Bucket := t.buckets.get? name

/-- The nodes that hold documents, in cluster order. -/
def kvNodes (t : Topology) : List Node := t.nodes.filter (·.runs .kv)

/-- The numbers of the nodes that hold documents, in cluster order. -/
def kvNodeIds (t : Topology) : List NodeId := t.kvNodes.map (·.id)

/-- Spreads every bucket over the nodes that hold documents. -/
def rebalance (t : Topology) : Topology :=
  { t with buckets := t.buckets.map (Bucket.rebalance t.kvNodeIds) }

/-- Changes the node of a number. -/
def modifyNode (t : Topology) (id : NodeId) (f : Node → Node) : Topology :=
  { t with nodes := t.nodes.map fun node => if node.id = id then f node else node }

/-- A change of a topology that may fail and that gives a result. -/
abbrev Edit (α : Type) := Topology → Except Fault (α × Topology)

/-- The result of an edit, and the topology that is published afterwards. -/
def update {α : Type} (edit : Edit α) (t : Topology) : Except Fault α × Topology :=
  match edit t with
  | .error fault => (.error fault, t)
  | .ok (result, next) => (.ok result, { next with revision := next.revision + 1 })

namespace Edit

/-- Adds a node and gives its number. -/
def addNode (hostname : String) (services : List Service) : Edit NodeId := fun t =>
  let next := { t with
    nextNode := t.nextNode + 1
    nodes := t.nodes ++ [Node.create t.nextNode hostname services] }
  .ok (t.nextNode, next.rebalance)

/-- Takes a node away. -/
def removeNode (id : NodeId) : Edit Unit := fun t =>
  match t.nodeIndex? id with
  | none => .error (.unknownNode id)
  | some index => .ok ((), { t with nodes := t.nodes.eraseIdx index }.rebalance)

/-- Changes a node that must be there. -/
def changeNode (id : NodeId) (f : Node → Node) : Edit Unit := fun t =>
  match t.node? id with
  | none => .error (.unknownNode id)
  | some _ => .ok ((), t.modifyNode id f)

/-- Gives a service of a node a port on its default address. -/
def setPort (id : NodeId) (service : Service) (port : UInt16) : Edit Unit :=
  changeNode id (·.setPort service port)

/-- Gives a node an address on a named network. -/
def setAlternate (id : NodeId) (network : String) (address : Address) : Edit Unit :=
  changeNode id (·.setAlternate network address)

/-- Chooses the network that a node advertises. -/
def setNetwork (id : NodeId) (network : Network) : Edit Unit :=
  changeNode id (·.setNetwork network)

/-- Adds a bucket over the nodes that hold documents. -/
def addBucket (spec : BucketSpec) : Edit Unit := fun t =>
  match t.bucket? spec.name with
  | some _ => .error (.bucketExists spec.name)
  | none =>
    let bucket := Bucket.create spec.name spec.replicas spec.vbuckets t.kvNodeIds
    let bucket := { bucket with capabilities := spec.capabilities.getD bucket.capabilities }
    .ok ((), { t with buckets := t.buckets.insert spec.name bucket })

/-- Takes a bucket away. -/
def removeBucket (name : String) : Edit Unit := fun t =>
  match t.bucket? name with
  | none => .error (.bucketNotFound name)
  | some _ => .ok ((), { t with buckets := t.buckets.erase name })

/-- Puts back an earlier state, and then fails if a fault is given. -/
def restore (earlier : Topology) (fault : Option Fault) : Edit Unit := fun _ =>
  match fault with
  | none => .ok ((), earlier)
  | some fault => .error fault

end Edit

/-- An edit with its arguments. -/
inductive Mutation where
  | addNode (hostname : String) (services : List Service)
  | removeNode (id : NodeId)
  | setPort (id : NodeId) (service : Service) (port : UInt16)
  | setAlternate (id : NodeId) (network : String) (address : Address)
  | setNetwork (id : NodeId) (network : Network)
  | addBucket (spec : BucketSpec)
  | removeBucket (name : String)
  | restore (earlier : Topology) (fault : Option Fault)

/-- What a mutation does; adding a node gives its number. -/
def Mutation.edit : Mutation → Edit (Option NodeId)
  | addNode hostname services => fun t => (Edit.addNode hostname services t).map fun (id, t) => (some id, t)
  | removeNode id => fun t => (Edit.removeNode id t).map fun (_, t) => (none, t)
  | setPort id service port => fun t => (Edit.setPort id service port t).map fun (_, t) => (none, t)
  | setAlternate id network address => fun t =>
    (Edit.setAlternate id network address t).map fun (_, t) => (none, t)
  | setNetwork id network => fun t => (Edit.setNetwork id network t).map fun (_, t) => (none, t)
  | addBucket spec => fun t => (Edit.addBucket spec t).map fun (_, t) => (none, t)
  | removeBucket name => fun t => (Edit.removeBucket name t).map fun (_, t) => (none, t)
  | restore earlier fault => fun t => (Edit.restore earlier fault t).map fun (_, t) => (none, t)

/-- The result of a mutation, and the topology that is published afterwards. -/
def mutate (m : Mutation) (t : Topology) : Except Fault (Option NodeId) × Topology := update m.edit t

/-- The topology after a list of mutations, failed ones included. -/
def mutateAll (ms : List Mutation) (t : Topology) : Topology :=
  ms.foldl (fun t m => (t.mutate m).2) t

/-- The active node of a vbucket of a bucket. -/
def activeNode? (t : Topology) (bucket : String) (vbucket : Nat) : Option NodeId := do
  (← t.bucket? bucket).activeNode? vbucket

theorem update_error {α : Type} {edit : Edit α} {t : Topology} {fault : Fault} (h : edit t = .error fault) :
    t.update edit = (.error fault, t) := by
  simp [update, h]

theorem update_ok {α : Type} {edit : Edit α} {t next : Topology} {result : α} (h : edit t = .ok (result, next)) :
    t.update edit = (.ok result, { next with revision := next.revision + 1 }) := by
  simp [update, h]

end Topology

end MockCluster
