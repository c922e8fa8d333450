import Mathlib.Data.List.Forall2
import MockCluster.Cluster.Document

/-!
# What a network shows

A node answers its clients as seen on the network that it advertises. Addresses get into a document in four places:

| place | taken from the address of a node |
| --- | --- |
| `nodesExt`, host | the host |
| `nodesExt`, services | the ports of those services that the node runs |
| `nodes` | the host, with the ports for administration, documents and views |
| `serverList` | the host, with the port for documents |

If one of them fell back to another network, it would show clients from outside a host that only the inside may know,
but only for a node without an address on the outside. `Topology.AlikeFor` relates topologies that may differ in
everything except what the network shows, and `config_of_alike` says that a client cannot tell them apart.
-/

namespace MockCluster

/-- Nodes that look alike on a network: there they have the same address, or both have none. -/
structure Node.AlikeOn (network : Network) (a b : Node) : Prop where
  id : a.id = b.id
  runs : ∀ service, a.runs service = b.runs service
  address? : a.address? network = b.address? network

/-- Topologies that look alike to the clients of a node that advertises a network, as far as one bucket goes. -/
structure Topology.AlikeFor (requester : NodeId) (network : Network) (name : String) (a b : Topology) : Prop where
  revision : a.revision = b.revision
  capabilities : a.capabilities = b.capabilities
  /-- The node is there in both, and advertises the same network. Other nodes may advertise any. -/
  left : ∃ node, a.node? requester = some node ∧ node.network = network
  right : ∃ node, b.node? requester = some node ∧ node.network = network
  /-- Node by node, in cluster order. -/
  nodes : List.Forall₂ (Node.AlikeOn network) a.nodes b.nodes
  bucket? : a.bucket? name = b.bucket? name

section Places

variable {network : Network} {a b : Node}

theorem map_eq_map_of_forall₂ {α β γ : Type} {R : α → β → Prop} {f : α → γ} {g : β → γ} {l : List α} {l' : List β}
    (h : List.Forall₂ R l l') (same : ∀ a b, R a b → f a = g b) : l.map f = l'.map g := by
  rw [← List.forall₂_eq_eq_eq, List.forall₂_map_left_iff, List.forall₂_map_right_iff]
  exact h.imp same

/-- Only whether a service runs counts, not how the services are listed. -/
theorem Node.AlikeOn.restrict_eq (h : a.AlikeOn network b) (ports : PortMap) :
    ports.restrict a.services = ports.restrict b.services := by
  ext service : 1
  have same : service ∈ a.services ↔ service ∈ b.services := by
    have := h.runs service
    simpa [Node.runs] using this
  simp only [PortMap.get?_restrict, same]

theorem Node.AlikeOn.entry_eq (h : a.AlikeOn network b) (requester : NodeId) :
    NodeEntry.ofNode requester network a = NodeEntry.ofNode requester network b := by
  simp only [NodeEntry.ofNode, h.id, h.address?, h.restrict_eq]

theorem Node.AlikeOn.legacy_eq (h : a.AlikeOn network b) (bucket : Bucket) :
    LegacyNode.ofNode bucket network a = LegacyNode.ofNode bucket network b := by
  simp only [LegacyNode.ofNode, h.address?]

theorem Node.AlikeOn.server_eq (h : a.AlikeOn network b) :
    VbucketServers.server? network a = VbucketServers.server? network b := by
  simp only [VbucketServers.server?, h.address?]

end Places

namespace Topology

variable {t other : Topology} {requester : NodeId} {network : Network} {name : String}

theorem networkOf_of_node? {node : Node} (h : t.node? requester = some node) :
    t.networkOf requester = .ok node.network := by
  simp only [networkOf, h]

namespace AlikeFor

/-- The same nodes hold documents, in the same order. -/
theorem kvNodes (h : t.AlikeFor requester network name other) :
    List.Forall₂ (Node.AlikeOn network) t.kvNodes other.kvNodes :=
  List.rel_filter (fun _ _ alike => iff_of_eq (congrArg (· = true) (alike.runs .kv))) h.nodes

theorem nodeEntries_eq (h : t.AlikeFor requester network name other) :
    t.nodeEntries requester network = other.nodeEntries requester network :=
  map_eq_map_of_forall₂ h.nodes fun _ _ alike => alike.entry_eq requester

theorem legacyNodes_eq (h : t.AlikeFor requester network name other) (b : Bucket) :
    t.kvNodes.map (LegacyNode.ofNode b network) = other.kvNodes.map (LegacyNode.ofNode b network) :=
  map_eq_map_of_forall₂ h.kvNodes fun _ _ alike => alike.legacy_eq b

/-- The list of servers is the same, and every slot has its place in it or none in both. -/
theorem ofBucket_eq (h : t.AlikeFor requester network name other) (b : Bucket) :
    VbucketServers.ofBucket b t.kvNodes network = VbucketServers.ofBucket b other.kvNodes network := by
  have ids : t.kvNodes.map (·.id) = other.kvNodes.map (·.id) :=
    map_eq_map_of_forall₂ h.kvNodes fun _ _ alike => alike.id
  have servers : t.kvNodes.map (VbucketServers.server? network) = other.kvNodes.map (VbucketServers.server? network) :=
    map_eq_map_of_forall₂ h.kvNodes fun _ _ alike => alike.server_eq
  simp only [VbucketServers.ofBucket, ids, servers]

theorem networkOf_eq (h : t.AlikeFor requester network name other) :
    t.networkOf requester = .ok network ∧ other.networkOf requester = .ok network := by
  obtain ⟨node, found, rfl⟩ := h.left
  obtain ⟨node', found', same⟩ := h.right
  exact ⟨networkOf_of_node? found, same ▸ networkOf_of_node? found'⟩

theorem clusterDocument_eq (h : t.AlikeFor requester network name other) :
    t.clusterDocument requester = other.clusterDocument requester := by
  obtain ⟨advertised, advertised'⟩ := h.networkOf_eq
  simp only [clusterDocument, advertised, advertised', bind, Except.bind, h.revision, h.capabilities, h.nodeEntries_eq]

theorem bucketDocument_eq (h : t.AlikeFor requester network name other) :
    t.bucketDocument name requester = other.bucketDocument name requester := by
  obtain ⟨advertised, advertised'⟩ := h.networkOf_eq
  simp only [bucketDocument, advertised, advertised', bind, Except.bind, h.bucket?, h.ofBucket_eq, h.revision,
    h.capabilities, h.legacyNodes_eq, h.nodeEntries_eq]

end AlikeFor

end Topology

section Shown

/-- A node of which nothing is left but what a network shows. -/
def Node.shownOn (network : Network) (node : Node) : Node :=
  match network with
  | .default => { node with network := .default, alternates := .empty }
  | .alternate name =>
    { node with
      network := .alternate name
      defaultAddress := default
      alternates := node.alternates.filter (· = name) }

theorem Node.alikeOn_shownOn (network : Network) (node : Node) : node.AlikeOn network (node.shownOn network) := by
  cases network with
  | default => exact ⟨rfl, fun _ => rfl, rfl⟩
  | alternate name =>
    refine ⟨rfl, fun _ => rfl, ?_⟩
    simp [Node.address?, Node.shownOn, NameMap.get?_filter]

/-- A topology of which nothing is left but what a network shows and one bucket. -/
def Topology.shownOn (network : Network) (name : String) (t : Topology) : Topology :=
  { t with
    nodes := t.nodes.map (Node.shownOn network)
    buckets := t.buckets.filter (· = name) }

theorem Topology.alikeFor_shownOn {t : Topology} {requester : NodeId} {node : Node}
    (found : t.node? requester = some node) (name : String) :
    t.AlikeFor requester node.network name (t.shownOn node.network name) where
  revision := rfl
  capabilities := rfl
  left := ⟨node, found, rfl⟩
  right := by
    refine ⟨node.shownOn node.network, ?_, ?_⟩
    · -- the node is found by its id, and this is shown on every network
      have same (a : Node) : (a.shownOn node.network).id = a.id := (a.alikeOn_shownOn node.network).id.symm
      have kept : t.nodes.find? (fun a => (a.shownOn node.network).id = requester) = some node := by
        simp only [same]
        exact found
      rw [Topology.node?, Topology.shownOn, List.find?_map]
      exact congrArg (Option.map (Node.shownOn node.network)) kept
    · cases node.network <;> rfl
  nodes := by
    rw [Topology.shownOn, List.forall₂_map_right_iff, List.forall₂_same]
    exact fun a _ => a.alikeOn_shownOn node.network
  bucket? := by simp [Topology.bucket?, Topology.shownOn, NameMap.get?_filter]

end Shown

namespace Topology

/-- **A client sees one network.** If two topologies look alike on the network that a node advertises, this node answers
alike in both, about the cluster and about the bucket. So it answers as if no node had an address on another network,
not even on the default one, as if every node advertised the same network, and as if there were no other bucket: there
is nothing left to fall back to. -/
theorem config_of_alike {t other : Topology} {requester : NodeId} {network : Network} {name : String}
    (h : t.AlikeFor requester network name other) :
    t.clusterConfig requester = other.clusterConfig requester ∧
    t.bucketConfig name requester = other.bucketConfig name requester ∧
    t.clusterConfig requester = (t.shownOn network name).clusterConfig requester ∧
    t.bucketConfig name requester = (t.shownOn network name).bucketConfig name requester := by
  obtain ⟨node, found, rfl⟩ := h.left
  have shown := alikeFor_shownOn found name
  refine ⟨?_, ?_, ?_, ?_⟩
  · rw [clusterConfig, clusterConfig, h.clusterDocument_eq]
  · rw [bucketConfig, bucketConfig, h.bucketDocument_eq]
  · rw [clusterConfig, clusterConfig, shown.clusterDocument_eq]
  · rw [bucketConfig, bucketConfig, shown.bucketDocument_eq]

/-- Clients of the first node come from outside. The second node, which holds a bucket as well, has no address there.
Its host may be any and may have ports, it may be known on another network and advertise it, and there may be more
buckets: the first node answers the same. -/
theorem config_of_alike_outside :
    let outside : List Mutation :=
      [.setAlternate 0 "external" ⟨"e", .insert .empty .kv 31210⟩, .setNetwork 0 (.alternate "external"),
        .addBucket ⟨"x", 1, 2, none⟩]
    let t := mutateAll ([.addNode "a" [.kv], .addNode "b" [.kv]] ++ outside ++
      [.setPort 1 .kv 11210, .setPort 1 .mgmt 8091]) initial
    let other := mutateAll ([.addNode "c" [.kv], .addNode "d" [.kv]] ++ outside ++
      [.setNetwork 1 (.alternate "vpn"), .addBucket ⟨"y", 0, 1, none⟩]) initial
    t.AlikeFor 0 (.alternate "external") "x" other ∧
      t.nodes.map (·.defaultAddress.hostname) = ["a", "b"] ∧ other.nodes.map (·.defaultAddress.hostname) = ["c", "d"] ∧
      (∃ config, t.clusterConfig 0 = .ok config ∧ other.clusterConfig 0 = .ok config) ∧
      ∃ config, t.bucketConfig "x" 0 = .ok config ∧ other.bucketConfig "x" 0 = .ok config := by
  intro outside t other
  have alike : t.AlikeFor 0 (.alternate "external") "x" other := {
    revision := rfl
    capabilities := rfl
    left := ⟨_, rfl, rfl⟩
    right := ⟨_, rfl, rfl⟩
    nodes := .cons ⟨rfl, fun _ => rfl, rfl⟩ (.cons ⟨rfl, fun _ => rfl, rfl⟩ .nil)
    bucket? := rfl }
  obtain ⟨cluster, bucket, -, -⟩ := config_of_alike alike
  exact ⟨alike, rfl, rfl, ⟨_, rfl, cluster.symm⟩, ⟨_, rfl, bucket.symm⟩⟩

end Topology

end MockCluster
