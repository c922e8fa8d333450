import MockCluster.Proofs.Topology.BucketView

/-!
# Two nodes about one bucket

A client bootstraps from one node and goes on with another, or two clients came in at different nodes. The documents
that they hold differ in what is shown of the nodes, but not in where the vbuckets are:

| part of a document | depends on the network | depends on the node that is asked |
| --- | --- | --- |
| hosts and ports in `nodesExt`, `nodes` and `serverList` | yes | no |
| the mark `thisNode` | no | yes |
| how many entries there are, and in which order | no | no |
| `vBucketMap` and all else | no | no |

A node without an address on a network keeps its place in every list, so that a place in `vBucketMap` means the same
node whatever the network. `answers_of_two` states the table for any two nodes, and that the entries of `nodesExt` are
those that the document about the cluster has.
-/

namespace MockCluster

namespace Json

/-- The number of elements of an array. -/
def length? : Json → Option Nat
  | .arr items => some items.length
  | _ => none

/-- An object without some of its fields. -/
def without (keys : List String) : Json → Json
  | .obj fields => .obj (fields.filter (·.1 ∉ keys))
  | v => v

/-- An array with each element changed. -/
def mapItems (f : Json → Json) : Json → Json
  | .arr items => .arr (items.map f)
  | v => v

/-- An object with the value of a field changed. -/
def mapField (key : String) (f : Json → Json) : Json → Json
  | .obj fields => .obj (fields.map fun field => if field.1 = key then (field.1, f field.2) else field)
  | v => v

/-- A document in which no entry of `nodesExt` is marked as the node that was asked. -/
def unmarked : Json → Json := mapField "nodesExt" (mapItems (without ["thisNode"]))

/-- A field that both have, with the same value. -/
def Share (doc doc' : Json) (key : String) : Prop :=
  ∃ value, doc.field? key = some value ∧ doc'.field? key = some value

/-- An array that both have, with the same number of elements. -/
def ShareLength (doc doc' : Json) (key : String) : Prop :=
  ∃ n, (doc.field? key).bind length? = some n ∧ (doc'.field? key).bind length? = some n

/-- Documents about one bucket that say the same, addresses and marks apart. -/
structure AgreesButAddresses (doc doc' : Json) : Prop where
  fields : ∀ key ∈ ["rev", "name", "uuid", "uri", "streamingUri", "ddocs", "bucketCapabilities", "clusterCapabilities"],
    doc.Share doc' key
  lists : ∀ key ∈ ["nodes", "nodesExt"], doc.ShareLength doc' key
  /-- The number of replicas is the same, and so are the places of all vbuckets in the list of servers. -/
  vBucketServerMap : ∃ map map', doc.field? "vBucketServerMap" = some map ∧ doc'.field? "vBucketServerMap" = some map' ∧
    (∀ key ∈ ["numReplicas", "vBucketMap"], map.Share map' key) ∧
    map.ShareLength map' "serverList" ∧
    map.without ["serverList"] = map'.without ["serverList"]
  /-- There is nothing else in which they differ. -/
  rest : doc.without ["nodes", "nodesExt", "vBucketServerMap"] = doc'.without ["nodes", "nodesExt", "vBucketServerMap"]

end Json

/-- An entry as it were if another node had been asked. -/
def NodeEntry.unmarked (entry : NodeEntry) : NodeEntry := { entry with thisNode := false }

theorem NodeEntry.without_toJson (entry : NodeEntry) : entry.toJson.without ["thisNode"] = entry.unmarked.toJson := by
  obtain ⟨services, thisNode, hostname⟩ := entry
  cases services <;> cases thisNode <;> cases hostname <;> rfl

theorem BucketDocument.unmarked_toJson (d : BucketDocument) :
    d.toJson.unmarked = { d with nodesExt := d.nodesExt.map NodeEntry.unmarked }.toJson := by
  have entries : (d.nodesExt.map NodeEntry.unmarked).map NodeEntry.toJson =
      (d.nodesExt.map NodeEntry.toJson).map (Json.without ["thisNode"]) := by
    rw [List.map_map, List.map_map]
    exact List.map_congr_left fun entry _ => entry.without_toJson.symm
  simp only [BucketDocument.toJson]
  rw [entries]
  rfl

namespace VbucketServers

variable {b : Bucket} {kvNodes : List Node}

/-- Only the list of servers depends on the network. -/
theorem ofBucket_eq_map (b : Bucket) (kvNodes : List Node) (network other : Network) :
    ofBucket b kvNodes network =
      (ofBucket b kvNodes other).map fun v => { v with servers := kvNodes.map (server? network) } := by
  simp only [ofBucket, bind, Except.bind]
  split <;> rfl

/-- The places of all slots are the same on every network. -/
theorem exists_places (held : ∀ row ∈ b.map, ∀ id, some id ∈ row → id ∈ kvNodes.map (·.id)) :
    ∃ places, ∀ network, ofBucket b kvNodes network = .ok ⟨b.replicas, kvNodes.map (server? network), places⟩ := by
  -- any network will do: the places found there are those of all
  obtain ⟨places, found, -⟩ := exists_ofBucket .default held
  refine ⟨places, fun network => ?_⟩
  rw [ofBucket_eq_map b kvNodes network .default, found]
  rfl

end VbucketServers

namespace Topology

variable {t : Topology} {b : Bucket} {name : String} {requester other : Node}

/-- What a node answers about a bucket whose slots have the given places. -/
def documentOf (t : Topology) (b : Bucket) (places : List (List Int32)) (requester : Node) : BucketDocument where
  rev := t.revision
  name := b.name
  uuid := b.uuid
  nodes := t.kvNodes.map (LegacyNode.ofNode b requester.network)
  nodesExt := t.nodeEntries requester.id requester.network
  bucketCapabilities := b.capabilities
  vbuckets := ⟨b.replicas, t.kvNodes.map (VbucketServers.server? requester.network), places⟩
  capabilities := t.capabilities

/-- All nodes answer with the same places. -/
theorem Balanced.exists_documentOf (h : t.Balanced) (hb : t.bucket? name = some b) :
    ∃ places, ∀ requester ∈ t.nodes, t.bucketDocument name requester.id = .ok (t.documentOf b places requester) := by
  have laidOut : b.LaidOut t.kvNodeIds name := h.laidOut name b (NameMap.mem_entries_of_get? hb)
  obtain ⟨places, found⟩ := VbucketServers.exists_places fun row hr id hi => laidOut.mem_of_slot hr hi
  exact ⟨places, fun requester hr => bucketDocument_of_present (h.node?_eq hr) hb (found requester.network)⟩

/-- What a node answers about the cluster. -/
theorem Balanced.clusterDocument_eq (h : t.Balanced) (hr : requester ∈ t.nodes) :
    t.clusterDocument requester.id =
      .ok ⟨t.revision, t.nodeEntries requester.id requester.network, t.capabilities⟩ := by
  simp [clusterDocument, networkOf, h.node?_eq hr, bind, Except.bind, pure, Except.pure]

/-- What a node answers about a bucket and about the cluster. -/
structure Answers (t : Topology) (name : String) (requester : Node) (doc cluster : Json) : Prop where
  bucket : doc.SentAs ((t.bucketDocument name requester.id).map BucketDocument.toJson)
    (t.bucketConfig name requester.id)
  cluster : cluster.SentAs ((t.clusterDocument requester.id).map ClusterDocument.toJson)
    (t.clusterConfig requester.id)

theorem answers_of_documents {d : BucketDocument} {c : ClusterDocument}
    (hd : t.bucketDocument name requester.id = .ok d) (hc : t.clusterDocument requester.id = .ok c) :
    t.Answers name requester d.toJson c.toJson where
  bucket := sentAs_bucketConfig hd
  cluster := sentAs_clusterConfig hc

/-- The entry of the requester is marked in `nodesExt`, and no other. -/
def Marks (t : Topology) (requester : Node) (doc : Json) : Prop :=
  ∃ entries, doc.field? "nodesExt" = some (.arr entries) ∧ List.Forall₂ (fun node entry =>
    entry.field? "thisNode" = if node.id = requester.id then some (.bool true) else none) t.nodes entries

theorem agreesButAddresses_documentOf (t : Topology) (b : Bucket) (places : List (List Int32))
    (requester other : Node) :
    (t.documentOf b places requester).toJson.AgreesButAddresses (t.documentOf b places other).toJson where
  fields := by
    simp only [List.forall_mem_cons, List.not_mem_nil, false_implies, implies_true, and_true]
    refine ⟨?_, ?_, ?_, ?_, ?_, ?_, ?_, ?_⟩ <;> exact ⟨_, rfl, rfl⟩
  lists := by
    simp only [List.forall_mem_cons, List.not_mem_nil, false_implies, implies_true, and_true]
    refine ⟨⟨t.kvNodes.length, ?_, ?_⟩, ⟨t.nodes.length, ?_, ?_⟩⟩ <;>
      simp [Json.field?, BucketDocument.toJson, documentOf, nodeEntries, Json.length?]
  vBucketServerMap := by
    refine ⟨_, _, rfl, rfl, ?_, ⟨t.kvNodes.length, ?_, ?_⟩, rfl⟩
    · simp only [List.forall_mem_cons, List.not_mem_nil, false_implies, implies_true, and_true]
      exact ⟨⟨_, rfl, rfl⟩, ⟨_, rfl, rfl⟩⟩
    · simp [Json.field?, VbucketServers.toJson, documentOf, Json.length?]
    · simp [Json.field?, VbucketServers.toJson, documentOf, Json.length?]
  rest := rfl

/-- On one network the nodes of a cluster answer the same, marks apart. -/
theorem unmarked_documentOf (t : Topology) (b : Bucket) (places : List (List Int32))
    (same : requester.network = other.network) :
    (t.documentOf b places requester).toJson.unmarked = (t.documentOf b places other).toJson.unmarked := by
  rw [BucketDocument.unmarked_toJson, BucketDocument.unmarked_toJson]
  simp only [documentOf, nodeEntries, List.map_map, Function.comp_def, NodeEntry.unmarked, NodeEntry.ofNode, same]

theorem marks_documentOf (t : Topology) (b : Bucket) (places : List (List Int32)) (requester : Node) :
    t.Marks requester (t.documentOf b places requester).toJson := by
  refine ⟨_, rfl, ?_⟩
  simp only [documentOf, nodeEntries, List.map_map, List.forall₂_map_right_iff, List.forall₂_same]
  exact fun node _ => (Node.listed_ofNode requester node).thisNode

/-- **Two nodes answer alike.** Whatever was done to a cluster, any two of its nodes answer about any of its buckets.
Whatever networks they advertise, their documents differ in addresses and marks only, and there are as many entries in
every list. If both advertise the same network, only the marks differ: each marks its own entry. And a node lists the
same nodes whether it is asked about the bucket or about the cluster. -/
theorem answers_of_two {ms : List Mutation} {past : List Topology} (h : History ms (t :: past))
    (hb : t.bucket? name = some b) (hr : requester ∈ t.nodes) (ho : other ∈ t.nodes) :
    ∃ doc cluster doc' cluster',
      t.Answers name requester doc cluster ∧ t.Answers name other doc' cluster' ∧
      doc.AgreesButAddresses doc' ∧
      (requester.network = other.network → doc.unmarked = doc'.unmarked) ∧
      t.Marks requester doc ∧ t.Marks other doc' ∧
      doc.Share cluster "nodesExt" ∧ doc'.Share cluster' "nodesExt" := by
  have balanced : t.Balanced := h.balanced t List.mem_cons_self
  obtain ⟨places, found⟩ := balanced.exists_documentOf hb
  exact ⟨_, _, _, _, answers_of_documents (found requester hr) (balanced.clusterDocument_eq hr),
    answers_of_documents (found other ho) (balanced.clusterDocument_eq ho),
    t.agreesButAddresses_documentOf b places requester other,
    t.unmarked_documentOf b places,
    t.marks_documentOf b places requester, t.marks_documentOf b places other,
    ⟨_, rfl, rfl⟩, ⟨_, rfl, rfl⟩⟩

/-- The last of three nodes advertises a network on which no other node has an address, and the second one does not hold
documents. In the list of servers that the last node gives, the first node keeps its place, with nothing to show. -/
theorem answers_of_two_networks :
    let t := mutateAll
      [.addNode "a" [.kv], .addNode "b" [.query], .addNode "c" [.kv], .setPort 0 .kv 11210, .setPort 2 .kv 11211,
        .setAlternate 2 "external" ⟨"e", .insert .empty .kv 31210⟩, .setNetwork 2 (.alternate "external"),
        .addBucket ⟨"x", 1, 2, none⟩] initial
    ∃ requester other doc cluster doc' cluster',
      requester ∈ t.nodes ∧ other ∈ t.nodes ∧ requester.network ≠ other.network ∧
      t.Answers "x" requester doc cluster ∧ t.Answers "x" other doc' cluster' ∧ doc.AgreesButAddresses doc' ∧
      (doc.field? "vBucketServerMap").bind (·.field? "serverList") = some (.arr [.str "a:11210", .str "c:11211"]) ∧
      (doc'.field? "vBucketServerMap").bind (·.field? "serverList") = some (.arr [.null, .str "e:31210"]) := by
  intro t
  have history : History _ _ :=
    .mutate (.mutate (.mutate (.mutate (.mutate (.mutate (.mutate (.mutate .start
      (.addNode "a" [.kv]) nofun) (.addNode "b" [.query]) nofun) (.addNode "c" [.kv]) nofun)
      (.setPort 0 .kv 11210) nofun) (.setPort 2 .kv 11211) nofun)
      (.setAlternate 2 "external" ⟨"e", .insert .empty .kv 31210⟩) nofun) (.setNetwork 2 (.alternate "external")) nofun)
      (.addBucket ⟨"x", 1, 2, none⟩) nofun
  have hr : t.nodes[0] ∈ t.nodes := List.getElem_mem _
  have ho : t.nodes[2] ∈ t.nodes := List.getElem_mem _
  have hb : t.bucket? "x" = some ((t.bucket? "x").get (by decide)) := (Option.some_get _).symm
  obtain ⟨doc, cluster, doc', cluster', answers, answers', agrees, -⟩ := answers_of_two history hb hr ho
  refine ⟨t.nodes[0], t.nodes[2], doc, cluster, doc', cluster', hr, ho, by decide, answers, answers', agrees, ?_, ?_⟩
  · obtain rfl := Except.ok.inj answers.bucket.made_eq
    rfl
  · obtain rfl := Except.ok.inj answers'.bucket.made_eq
    rfl

end Topology

end MockCluster
