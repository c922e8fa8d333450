import MockCluster.Cluster.Node
import MockCluster.Text.Hash64
import MockCluster.Text.Utf8

/-!
# Buckets

A bucket divides its documents into vbuckets. The map of a bucket has a row for each vbucket: the active node first,
then one slot for each replica. Row `v` walks through the nodes that hold documents, beginning at node `v` modulo
their number; a slot for which there is no further node stays empty.
-/

namespace MockCluster

/-- What a bucket announces to its clients. -/
inductive BucketCapability where
  | cbhello
  | cccp
  | collections
  | couchapi
  | durableWrite
  | nodesExt
  | touch
  | xattr
  | xdcrCheckpointing
  deriving DecidableEq, Repr, Inhabited

namespace BucketCapability

/-- Every capability, in the order in which capabilities are listed. -/
def all : List BucketCapability :=
  [cbhello, cccp, collections, couchapi, durableWrite, nodesExt, touch, xattr, xdcrCheckpointing]

/-- The name of a capability in settings. -/
def name : BucketCapability → String
  | cbhello => "cbhello"
  | cccp => "cccp"
  | collections => "collections"
  | couchapi => "couchapi"
  | durableWrite => "durable_write"
  | nodesExt => "nodes_ext"
  | touch => "touch"
  | xattr => "xattr"
  | xdcrCheckpointing => "xdcr_checkpointing"

/-- The capability of a name. -/
def ofName? (name : String) : Option BucketCapability := all.find? (·.name = name)

/-- The name of a capability in configuration documents. -/
def configName : BucketCapability → String
  | cbhello => "cbhello"
  | cccp => "cccp"
  | collections => "collections"
  | couchapi => "couchapi"
  | durableWrite => "durableWrite"
  | nodesExt => "nodesExt"
  | touch => "touch"
  | xattr => "xattr"
  | xdcrCheckpointing => "xdcrCheckpointing"

/-- What a bucket announces unless told otherwise: everything. -/
def defaults : List BucketCapability := all

/-- A list of capabilities as a set: each once, in the order of `all`. -/
def normalize (capabilities : List BucketCapability) : List BucketCapability :=
  all.filter (· ∈ capabilities)

theorem mem_all (c : BucketCapability) : c ∈ all := by cases c <;> decide

@[simp] theorem mem_normalize {c : BucketCapability} {capabilities : List BucketCapability} :
    c ∈ normalize capabilities ↔ c ∈ capabilities := by
  simp [normalize, mem_all]

@[simp] theorem ofName?_name (c : BucketCapability) : ofName? c.name = some c := by cases c <;> decide

end BucketCapability

/-- A row of a vbucket map: the active node, then the replicas. -/
abbrev VbucketRow := List (Option NodeId)

/-- The row of a vbucket over the given nodes. -/
def VbucketRow.over (nodes : List NodeId) (replicas vbucket : Nat) : VbucketRow :=
  (List.range (1 + replicas)).map fun slot =>
    if slot < nodes.length then nodes[(vbucket + slot) % nodes.length]? else none

/-- A bucket. -/
structure Bucket where
  /-- The name. -/
  name : String
  /-- An identifier that depends on the name alone. -/
  uuid : String
  /-- The number of replicas of each vbucket. -/
  replicas : Nat
  /-- What the bucket announces. -/
  capabilities : List BucketCapability
  /-- Which nodes hold which vbucket. -/
  map : List VbucketRow
  deriving DecidableEq, Repr, Inhabited

namespace Bucket

/-- The identifier of a bucket: two hashes of its name, as 32 hexadecimal digits. -/
def uuidOf (name : String) : String :=
  let bytes := Utf8.encode name
  String.ofList (Bytes.hexDigits 16 (Hash64.hash 0 bytes).toNat ++ Bytes.hexDigits 16 (Hash64.hash 1 bytes).toNat)

/-- The vbucket map of a new bucket over the given nodes. -/
def layout (nodes : List NodeId) (replicas vbuckets : Nat) : List VbucketRow :=
  (List.range vbuckets).map (VbucketRow.over nodes replicas)

/-- A bucket over the given nodes. -/
def create (name : String) (replicas vbuckets : Nat) (nodes : List NodeId) : Bucket where
  name := name
  uuid := uuidOf name
  replicas := replicas
  capabilities := BucketCapability.defaults
  map := layout nodes replicas vbuckets

/-- The number of vbuckets. -/
def vbuckets (bucket : Bucket) : Nat := bucket.map.length

/-- Spreads the existing rows over other nodes. -/
def rebalance (nodes : List NodeId) (bucket : Bucket) : Bucket :=
  { bucket with map := bucket.map.mapIdx fun vbucket _ => VbucketRow.over nodes bucket.replicas vbucket }

/-- The active node of a vbucket. -/
def activeNode? (bucket : Bucket) (vbucket : Nat) : Option NodeId := do
  (← (← bucket.map[vbucket]?).head?)

/-- Spreading anew forgets where the rows were: only their number counts. -/
theorem map_rebalance (nodes : List NodeId) (bucket : Bucket) :
    (bucket.rebalance nodes).map = layout nodes bucket.replicas bucket.vbuckets := by
  apply List.ext_getElem <;> simp [rebalance, layout, vbuckets]

end Bucket

end MockCluster
