import MockCluster.Cluster.Topology
import MockCluster.Text.Json

/-!
# Configuration documents

What a node tells its clients about the cluster (`ClusterDocument`) and about one bucket (`BucketDocument`). Both are
written from one topology, as seen by the node that is asked: the network which that node advertises decides which
address of every node is shown. A node without an address on that network keeps its place in every list, with nothing
to show there.
-/

namespace MockCluster

/-- What a document says about one node. -/
structure NodeEntry where
  /-- The ports of the services that the node runs, if it has an address. -/
  services : Option PortMap
  /-- Whether this is the node that was asked. -/
  thisNode : Bool
  /-- The host, if the node has an address. -/
  hostname : Option String

/-- What a bucket document says about one node that holds documents, in the older form. -/
structure LegacyNode where
  /-- Where the views of the bucket are. -/
  couchApiBase : Option String
  /-- Where the administration is. -/
  hostname : Option String
  /-- The port for documents. -/
  direct : Option UInt16
  deriving DecidableEq, Repr

/-- Which server holds which vbucket. -/
structure VbucketServers where
  /-- The number of replicas. -/
  replicas : Nat
  /-- A server for each node that holds documents, if it can be reached. -/
  servers : List (Option String)
  /-- A row for each vbucket: places in the list of servers, -1 for none. -/
  map : List (List Int32)
  deriving DecidableEq, Repr

/-- The configuration of the cluster. -/
structure ClusterDocument where
  rev : Nat
  nodesExt : List NodeEntry
  capabilities : NameMap (List String)

/-- The configuration of a bucket. -/
structure BucketDocument where
  rev : Nat
  name : String
  uuid : String
  nodes : List LegacyNode
  nodesExt : List NodeEntry
  bucketCapabilities : List BucketCapability
  vbuckets : VbucketServers
  capabilities : NameMap (List String)

/-- A host and a port as one text. A host with a colon is put into brackets. -/
def hostPort (hostname : String) (port : UInt16) : String :=
  if hostname.toList.contains ':' then s!"[{hostname}]:{port.toNat}" else s!"{hostname}:{port.toNat}"

namespace NodeEntry

/-- The entry of a node on a network. -/
def ofNode (requester : NodeId) (network : Network) (node : Node) : NodeEntry where
  services := (node.address? network).map fun address => address.ports.restrict node.services
  thisNode := node.id = requester
  hostname := (node.address? network).map (·.hostname)

/-- A port as a field. -/
def portField : Service × UInt16 → String × Json
  | (service, port) => (service.configKey, .nat port.toNat)

/-- The entry as an object; what is not there is left out. -/
def toJson (entry : NodeEntry) : Json :=
  .obj (
    (entry.services.map fun ports =>
      ("services", Json.obj ((ports.entriesIn Service.byConfigKey).map portField))).toList
    ++ (if entry.thisNode then [("thisNode", .bool true)] else [])
    ++ (entry.hostname.map fun hostname => ("hostname", Json.str hostname)).toList)

end NodeEntry

namespace LegacyNode

/-- The entry of a node on a network, in the document of a bucket. -/
def ofNode (bucket : Bucket) (network : Network) (node : Node) : LegacyNode :=
  match node.address? network with
  | none => ⟨none, none, none⟩
  | some address =>
    { couchApiBase := (address.ports.get? .views).map fun port =>
        s!"http://{hostPort address.hostname port}/{bucket.name}%2B{bucket.uuid}"
      hostname := (address.ports.get? .mgmt).map (hostPort address.hostname)
      direct := address.ports.get? .kv }

/-- The entry as an object; what is not there is left out. -/
def toJson (entry : LegacyNode) : Json :=
  .obj (
    (entry.couchApiBase.map fun base => ("couchApiBase", Json.str base)).toList
    ++ (entry.hostname.map fun hostname => ("hostname", Json.str hostname)).toList
    ++ (entry.direct.map fun port => ("ports", Json.obj [("direct", .nat port.toNat)])).toList)

end LegacyNode

namespace VbucketServers

/-- The server of a node on a network. -/
def server? (network : Network) (node : Node) : Option String := do
  let address ← node.address? network
  return hostPort address.hostname (← address.ports.get? .kv)

/-- The place of a slot's node in the list of servers. -/
def slot (bucket : Bucket) (ids : List NodeId) (vbucket : Nat) : Option NodeId → Except Fault Int32
  | none => .ok (-1)
  | some id =>
    match ids.findIdx? (· = id) with
    | some index => .ok (Int32.ofNat index)
    | none => .error (.invalidTopology
        s!"bucket {bucket.name} vbucket {vbucket} references {id.name} which is not a kv node")

/-- The servers of a bucket. -/
def ofBucket (bucket : Bucket) (kvNodes : List Node) (network : Network) : Except Fault VbucketServers := do
  let ids := kvNodes.map (·.id)
  let map ← bucket.map.zipIdx.mapM fun (row, vbucket) => row.mapM (slot bucket ids vbucket)
  return { replicas := bucket.replicas, servers := kvNodes.map (server? network), map }

/-- The servers as an object. -/
def toJson (servers : VbucketServers) : Json :=
  .obj [
    ("hashAlgorithm", .str "CRC"),
    ("numReplicas", .nat servers.replicas),
    ("serverList", .arr (servers.servers.map fun server => (server.map Json.str).getD .null)),
    ("vBucketMap", .arr (servers.map.map fun row => .arr (row.map fun place => .num place.toInt)))]

end VbucketServers

/-- The fields about the cluster's capabilities. -/
def capabilityFields (capabilities : NameMap (List String)) : List (String × Json) :=
  [("clusterCapabilitiesVer", .arr [.nat 1, .nat 0]),
    ("clusterCapabilities", .obj (capabilities.entries.map fun (service, names) =>
      (service, .arr (names.map .str))))]

namespace ClusterDocument

/-- The document as an object. -/
def toJson (d : ClusterDocument) : Json :=
  .obj ([("rev", .nat d.rev), ("nodesExt", .arr (d.nodesExt.map NodeEntry.toJson))]
    ++ capabilityFields d.capabilities)

end ClusterDocument

namespace BucketDocument

/-- Where the document can be requested over HTTP. -/
def uri (d : BucketDocument) : String :=
  s!"/pools/default/buckets/{d.name}?bucket_uuid={d.uuid}"

/-- Where changes of the document can be followed over HTTP. -/
def streamingUri (d : BucketDocument) : String :=
  s!"/pools/default/bucketsStreaming/{d.name}?bucket_uuid={d.uuid}"

/-- Where the design documents of the bucket are. -/
def ddocsUri (d : BucketDocument) : String :=
  s!"/pools/default/buckets/{d.name}/ddocs"

/-- The document as an object. -/
def toJson (d : BucketDocument) : Json :=
  .obj ([
    ("rev", .nat d.rev),
    ("name", .str d.name),
    ("uri", .str d.uri),
    ("streamingUri", .str d.streamingUri),
    ("nodes", .arr (d.nodes.map LegacyNode.toJson)),
    ("nodesExt", .arr (d.nodesExt.map NodeEntry.toJson)),
    ("nodeLocator", .str "vbucket"),
    ("uuid", .str d.uuid),
    ("ddocs", .obj [("uri", .str d.ddocsUri)]),
    ("bucketCapabilitiesVer", .str ""),
    ("bucketCapabilities", .arr (d.bucketCapabilities.map fun c => .str c.configName)),
    ("vBucketServerMap", d.vbuckets.toJson)]
    ++ capabilityFields d.capabilities)

end BucketDocument

namespace Topology

/-- The network that a node advertises. -/
def networkOf (t : Topology) (requester : NodeId) : Except Fault Network :=
  match t.node? requester with
  | some node => .ok node.network
  | none => .error (.unknownNode requester)

/-- An entry for every node, in cluster order. -/
def nodeEntries (t : Topology) (requester : NodeId) (network : Network) : List NodeEntry :=
  t.nodes.map (NodeEntry.ofNode requester network)

/-- The configuration of the cluster as seen by a node. -/
def clusterDocument (t : Topology) (requester : NodeId) : Except Fault ClusterDocument := do
  let network ← t.networkOf requester
  return { rev := t.revision, nodesExt := t.nodeEntries requester network, capabilities := t.capabilities }

/-- The configuration of a bucket as seen by a node. -/
def bucketDocument (t : Topology) (name : String) (requester : NodeId) : Except Fault BucketDocument := do
  let network ← t.networkOf requester
  let bucket ← match t.bucket? name with
    | some bucket => Except.ok bucket
    | none => .error (.bucketNotFound name)
  let vbuckets ← VbucketServers.ofBucket bucket t.kvNodes network
  return {
    rev := t.revision
    name := bucket.name
    uuid := bucket.uuid
    nodes := t.kvNodes.map (LegacyNode.ofNode bucket network)
    nodesExt := t.nodeEntries requester network
    bucketCapabilities := bucket.capabilities
    vbuckets
    capabilities := t.capabilities }

/-- The configuration of the cluster as bytes. -/
def clusterConfig (t : Topology) (requester : NodeId) : Except Fault Bytes :=
  (t.clusterDocument requester).map fun d => d.toJson.bytes

/-- The configuration of a bucket as bytes. -/
def bucketConfig (t : Topology) (name : String) (requester : NodeId) : Except Fault Bytes :=
  (t.bucketDocument name requester).map fun d => d.toJson.bytes

end Topology

end MockCluster
