import Mathlib.Algebra.GroupWithZero.Nat
import Mathlib.Data.List.Forall2
import MockCluster.Deployment
import MockCluster.Proofs.Settings.Validity

/-!
# The cluster of valid settings

Settings are checked as a whole before anything is made from them, and yet every part of the assembly looks for faults
of its own. None of these is met once the settings are found valid:

| fault of the assembly | why there is none |
| --- | --- |
| a port is for no service | `NodeSettings.Valid.ports` |
| a bucket exists already | `Settings.Valid.distinct`, and there are no others |
| a node is unknown | it was added just before |

The assembly publishes a topology for each of its steps. `Assembly.run_ofSettings` says where it ends, in closed form
(`Settings.topology`), and `Deployment.create_describes` what that is in the terms of the settings.
-/

namespace MockCluster

section Meaning

/-- An address is the one that the settings describe. -/
structure AlternateSettings.Describes (a : AlternateSettings) (address : Address) : Prop where
  hostname : address.hostname = a.hostname
  /-- The port of a service is the one that is given under its name. -/
  ports : ∀ service, address.ports.get? service = (a.ports.get? service.name).map UInt16.ofNat
  /-- There are no ports under other names. -/
  known : ∀ name ∈ a.ports.names, ∃ service : Service, service.name = name

/-- A node is the one that the settings describe, under a number. -/
structure NodeSettings.Describes (n : NodeSettings) (id : NodeId) (node : Node) : Prop where
  id_eq : node.id = id
  hostname : node.defaultAddress.hostname = n.hostname
  services : ∀ service, node.runs service = true ↔ service ∈ n.services
  /-- The default address has no ports. -/
  unbound : ∀ service, node.defaultAddress.ports.get? service = none
  alternates : ∀ name, Option.Rel AlternateSettings.Describes (n.alternates.get? name) (node.alternates.get? name)
  network : node.network = if n.network = "" ∨ n.network = "default" then .default else .alternate n.network

/-- A bucket is the one that the settings describe, laid out over the given nodes. -/
structure BucketSettings.Describes (b : BucketSettings) (ids : List NodeId) (bucket : Bucket) : Prop where
  name : bucket.name = b.name
  uuid : bucket.uuid = Bucket.uuidOf b.name
  replicas : bucket.replicas = b.replicas
  map : bucket.map = Bucket.layout ids b.replicas b.vbuckets
  /-- Everything is announced if nothing is said. -/
  capabilities : bucket.capabilities = b.capabilities.getD BucketCapability.all

/-- A cluster is the one that the settings describe. -/
structure Settings.Describes (s : Settings) (t : Topology) : Prop where
  /-- The nodes are numbered from zero, in the order of the settings. -/
  nodes : List.Forall₂ (fun (n, id) node => n.Describes id node) s.nodes.zipIdx t.nodes
  buckets : ∀ b ∈ s.buckets, ∃ bucket, t.bucket? b.name = some bucket ∧ b.Describes t.kvNodeIds bucket
  /-- There are no other buckets. -/
  named : ∀ name bucket, t.bucket? name = some bucket → ∃ b ∈ s.buckets, b.name = name
  /-- A topology was published for every node, every alternate address, every choice of a network and every bucket. -/
  revision : t.revision = 1 + s.nodes.length + (s.nodes.map fun n => n.alternates.entries.length).sum +
    s.nodes.countP (fun n => n.network ≠ "" ∧ n.network ≠ "default") + s.buckets.length

end Meaning

section ClosedForm

namespace AlternateSettings

variable {a : AlternateSettings}

theorem address?_of_known (known : a.unknownService? = none) : a.address? = .ok a.address := by
  rw [address?, known]

end AlternateSettings

theorem Network.ofName_eq_default_iff {name : String} : ofName name = .default ↔ name = "" ∨ name = "default" := by
  unfold ofName
  split <;> simp_all

namespace NodeSettings

variable {n : NodeSettings}

theorem Valid.unknownService? (valid : n.Valid) {entry : String × AlternateSettings}
    (he : entry ∈ n.alternates.entries) : entry.2.unknownService? = none :=
  AlternateSettings.unknownService?_eq_none_iff.2 (valid.ports entry.2 (List.mem_map_of_mem he))

/-- The node that the settings describe. -/
def node (n : NodeSettings) (id : NodeId) : Node where
  id := id
  services := Service.normalize n.services
  network := Network.ofName n.network
  defaultAddress := ⟨n.hostname, .empty⟩
  alternates := n.alternates.map AlternateSettings.address

/-- How many topologies are published for the node. -/
def publications (n : NodeSettings) : Nat :=
  1 + n.alternates.entries.length + if Network.ofName n.network = .default then 0 else 1

end NodeSettings

namespace BucketSettings

/-- The bucket that the settings describe, over the given nodes. -/
def bucket (b : BucketSettings) (ids : List NodeId) : Bucket :=
  { Bucket.create b.name b.replicas b.vbuckets ids with capabilities := b.capabilities.getD BucketCapability.all }

end BucketSettings

/-- The cluster that the settings describe. -/
def Settings.topology (s : Settings) : Topology :=
  let nodes := s.nodes.zipIdx.map fun (n, id) => n.node id
  let holders := (nodes.filter (·.runs .kv)).map (·.id)
  { revision := 1 + (s.nodes.map (·.publications)).sum + s.buckets.length
    nextNode := s.nodes.length
    nodes
    buckets := .ofList (s.buckets.map fun b => (b.name, b.bucket holders))
    capabilities := Topology.initial.capabilities }

end ClosedForm

/-- The topology with other nodes, after more publications. -/
def Topology.advance (t : Topology) (publications : Nat) (nodes : List Node) : Topology :=
  { t with revision := t.revision + publications, nodes }

theorem Topology.advance_advance (t : Topology) (k l : Nat) (nodes others : List Node) :
    (t.advance k nodes).advance l others = t.advance (k + l) others := by
  simp [advance, Nat.add_assoc]

theorem Topology.rebalance_of_no_buckets {t : Topology} (noBuckets : t.buckets = .empty) : t.rebalance = t := by
  cases t
  cases noBuckets
  rfl

namespace Assembly

open MockCluster.Topology (Edit)

variable {α β : Type} {t next : Topology}

theorem run_bind_of_ok {x : Assembly α} {f : α → Assembly β} {a : α} (h : x.run t = .ok (a, next)) :
    (x >>= f).run t = (f a).run next := by
  rw [StateT.run_bind, h]
  rfl

theorem run_publish {asFault : Fault → AssemblyFault} {edit : Edit α} {result : α}
    (h : edit t = .ok (result, next)) :
    (publish asFault edit).run t = .ok (result, next.advance 1 next.nodes) := by
  simp only [publish, StateT.run, Topology.update_ok h]
  rfl

section LastNode

variable {earlier : List Node} {node : Node} {id : NodeId} (last : t.nodes = earlier ++ [node])
  (others : ∀ other ∈ earlier, other.id ≠ id) (hid : node.id = id)

include last others hid

/-- The node that was added last can be changed. -/
theorem run_changeNode (f : Node → Node) :
    (publish .unset (Edit.changeNode id f)).run t = .ok ((), t.advance 1 (earlier ++ [f node])) := by
  have found : t.node? id = some node := by
    have absent : earlier.find? (·.id = id) = none := List.find?_eq_none.2 fun other ho => by
      simpa using others other ho
    simp [Topology.node?, last, List.find?_append, absent, hid]
  have kept : earlier.map (fun other => if other.id = id then f other else other) = earlier :=
    (List.map_congr_left fun other ho => if_neg (others other ho)).trans (List.map_id earlier)
  have changed : Edit.changeNode id f t = .ok ((), { t with nodes := earlier ++ [f node] }) := by
    simp [Edit.changeNode, found, Topology.modifyNode, last, kept, hid]
  exact run_publish changed

/-- It can get an address. -/
theorem run_setAlternate {a : AlternateSettings} (known : a.unknownService? = none) (network : String) :
    (setAlternate id network a).run t =
      .ok ((), t.advance 1 (earlier ++ [node.setAlternate network a.address])) := by
  rw [setAlternate, AlternateSettings.address?_of_known known]
  exact run_changeNode last others hid (·.setAlternate network a.address)

/-- It can get any number of addresses. -/
theorem run_setAlternates {entries : List (String × AlternateSettings)}
    (known : ∀ entry ∈ entries, entry.2.unknownService? = none) :
    (setAlternates id entries).run t = .ok ((), t.advance entries.length
      (earlier ++ [entries.foldl (fun node entry => node.setAlternate entry.1 entry.2.address) node])) := by
  induction entries generalizing t node with
  | nil =>
    cases t
    cases last
    rfl
  | cons entry rest ih =>
    obtain ⟨known, knownRest⟩ := List.forall_mem_cons.1 known
    rw [setAlternates, run_bind_of_ok (run_setAlternate last others hid known entry.1)]
    have last : (t.advance 1 (earlier ++ [node.setAlternate entry.1 entry.2.address])).nodes =
        earlier ++ [node.setAlternate entry.1 entry.2.address] := rfl
    refine (ih last hid knownRest).trans ?_
    rw [Topology.advance_advance, List.length_cons, Nat.add_comm 1]
    rfl

/-- It can be told which network to advertise. -/
theorem run_setNetwork (new : node.network = .default) (network : Network) :
    (setNetwork id network).run t =
      .ok ((), t.advance (if network = .default then 0 else 1) (earlier ++ [node.setNetwork network])) := by
  unfold setNetwork
  split
  · rename_i same
    have unchanged : node.setNetwork network = node := by rw [same, Node.setNetwork, ← new]
    rw [unchanged, ← last]
    rfl
  · exact run_changeNode last others hid (·.setNetwork network)

end LastNode

theorem foldl_setAlternate (entries : List (String × AlternateSettings)) (node : Node) :
    entries.foldl (fun node entry => node.setAlternate entry.1 entry.2.address) node =
      { node with alternates := entries.foldl (fun m entry => m.insert entry.1 entry.2.address) node.alternates } := by
  induction entries generalizing node with
  | nil => rfl
  | cons entry rest ih => exact ih (node.setAlternate entry.1 entry.2.address)

/-- With its addresses, a new node is the one that the settings describe, apart from the network. -/
theorem foldl_create (n : NodeSettings) (id : NodeId) :
    n.alternates.entries.foldl (fun node entry => node.setAlternate entry.1 entry.2.address)
      (Node.create id n.hostname n.services) = { n.node id with network := .default } := by
  have alternates : n.alternates.entries.foldl (fun m entry => m.insert entry.1 entry.2.address) .empty =
      n.alternates.map AlternateSettings.address := by
    rw [← NameMap.ofList_entries (n.alternates.map _), NameMap.ofList, NameMap.map, List.foldl_map]
  rw [foldl_setAlternate, Node.create, alternates]
  rfl

/-- **A valid node is added as the settings describe it.** -/
theorem run_addNode {n : NodeSettings} (valid : n.Valid) (noBuckets : t.buckets = .empty)
    (given : ∀ node ∈ t.nodes, node.id < t.nextNode) :
    (addNode n).run t = .ok (t.nextNode,
      { t.advance n.publications (t.nodes ++ [n.node t.nextNode]) with nextNode := t.nextNode + 1 }) := by
  have others : ∀ other ∈ t.nodes, other.id ≠ t.nextNode := fun other ho => Nat.ne_of_lt (given other ho)
  let created : Topology :=
    { t with nextNode := t.nextNode + 1, nodes := t.nodes ++ [Node.create t.nextNode n.hostname n.services] }
  have create : Edit.addNode n.hostname n.services t = .ok (t.nextNode, created) :=
    congrArg (fun next => Except.ok (t.nextNode, next)) (Topology.rebalance_of_no_buckets (t := created) noBuckets)
  have address := run_setAlternates (t := created.advance 1 created.nodes) rfl others rfl
    fun entry => valid.unknownService?
  rw [foldl_create, Topology.advance_advance] at address
  have choose := run_setNetwork (t := created.advance (1 + n.alternates.entries.length)
    (t.nodes ++ [{ n.node t.nextNode with network := .default }])) rfl others rfl rfl (Network.ofName n.network)
  rw [Topology.advance_advance] at choose
  rw [addNode, run_bind_of_ok (run_publish create), run_bind_of_ok address, run_bind_of_ok choose]
  rfl

/-- All nodes are added, with the numbers that follow. -/
theorem run_addNodes {ns : List NodeSettings} (valid : ∀ n ∈ ns, n.Valid) (noBuckets : t.buckets = .empty)
    (given : ∀ node ∈ t.nodes, node.id < t.nextNode) :
    (addNodes ns).run t = .ok (List.range' t.nextNode ns.length,
      { t.advance (ns.map (·.publications)).sum (t.nodes ++ (ns.zipIdx t.nextNode).map fun (n, id) => n.node id) with
        nextNode := t.nextNode + ns.length }) := by
  induction ns generalizing t with
  | nil =>
    rw [addNodes, StateT.run_pure]
    simp [Topology.advance, pure, Except.pure]
  | cons n rest ih =>
    obtain ⟨validNode, validRest⟩ := List.forall_mem_cons.1 valid
    let next : Topology :=
      { t.advance n.publications (t.nodes ++ [n.node t.nextNode]) with nextNode := t.nextNode + 1 }
    have givenNext : ∀ node ∈ next.nodes, node.id < next.nextNode := fun node hn => by
      obtain hn | hn := List.mem_append.1 hn
      · exact Nat.lt_succ_of_lt (given node hn)
      · obtain rfl := List.mem_singleton.1 hn
        exact Nat.lt_succ_self _
    have others := ih (t := next) validRest noBuckets givenNext
    rw [addNodes, run_bind_of_ok (run_addNode validNode noBuckets given), run_bind_of_ok others]
    have nodes : next.nodes ++ (rest.zipIdx next.nextNode).map (fun (n, id) => n.node id) =
        t.nodes ++ ((n :: rest).zipIdx t.nextNode).map fun (n, id) => n.node id := by
      simp [next, Topology.advance]
    rw [nodes, StateT.run_pure]
    simp [next, Topology.advance, pure, Except.pure, List.range', Nat.add_assoc, Nat.add_comm 1]

/-- Buckets with new names are added in order. -/
theorem run_addBuckets {bs : List BucketSettings} (absent : ∀ b ∈ bs, t.bucket? b.name = none)
    (distinct : (bs.map (·.name)).Nodup) :
    (addBuckets bs).run t = .ok ((), { t with
      revision := t.revision + bs.length
      buckets := (bs.map fun b => (b.name, b.bucket t.kvNodeIds)).foldl (fun m (name, bucket) => m.insert name bucket)
        t.buckets }) := by
  induction bs generalizing t with
  | nil => rfl
  | cons b rest ih =>
    obtain ⟨absentBucket, absentRest⟩ := List.forall_mem_cons.1 absent
    obtain ⟨new, distinctRest⟩ := List.nodup_cons.1 distinct
    have add : Edit.addBucket b.spec t =
        .ok ((), { t with buckets := t.buckets.insert b.name (b.bucket t.kvNodeIds) }) := by
      have none : t.bucket? b.spec.name = none := absentBucket
      simp only [Edit.addBucket, none]
      rfl
    rw [addBuckets, run_bind_of_ok (run_publish add)]
    refine (ih (fun other ho => ?_) distinctRest).trans ?_
    · have differs : other.name ≠ b.name := fun same => new (List.mem_map.2 ⟨other, ho, same⟩)
      exact (NameMap.get?_insert ..).trans ((if_neg differs).trans (absentRest other ho))
    · rw [List.length_cons, Nat.add_comm rest.length, ← Nat.add_assoc]
      rfl

/-- **The assembly of valid settings ends with the cluster that they describe.** -/
theorem run_ofSettings {s : Settings} (valid : s.Valid) :
    (ofSettings s).run .initial = .ok (List.range s.nodes.length, s.topology) := by
  let populated : Topology :=
    { Topology.initial.advance (s.nodes.map (·.publications)).sum (s.nodes.zipIdx.map fun (n, id) => n.node id) with
      nextNode := s.nodes.length }
  have nodes : (addNodes s.nodes).run .initial = .ok (List.range s.nodes.length, populated) := by
    have run := run_addNodes (t := .initial) valid.nodes rfl nofun
    rw [show Topology.initial.nextNode = 0 from rfl, Nat.zero_add, ← List.range_eq_range'] at run
    exact run
  have buckets := run_addBuckets (t := populated) (fun _ _ => rfl) valid.distinct
  rw [ofSettings, run_bind_of_ok nodes, run_bind_of_ok buckets]
  rfl

end Assembly

namespace Settings

variable {s : Settings}

theorem bucket?_topology (valid : s.Valid) {name : String} {bucket : Bucket} :
    s.topology.bucket? name = some bucket ↔
      ∃ b ∈ s.buckets, b.name = name ∧ b.bucket s.topology.kvNodeIds = bucket := by
  have distinct : ((s.buckets.map fun b => (b.name, b.bucket s.topology.kvNodeIds)).map (·.1)).Pairwise (· ≠ ·) := by
    rw [List.map_map]
    exact valid.distinct
  have found : s.topology.bucket? name = _ := NameMap.get?_ofList distinct name
  rw [found, NameMap.find?_eq_some_iff_mem distinct, List.mem_map]
  simp only [Prod.mk.injEq]

end Settings

namespace Deployment

variable {K R M : Type}

/-- A deployment of valid settings is made. -/
theorem exists_create (service : Kv.Builtin → K) (route : Http.Builtin → R) (memory : M) {s : Settings}
    (valid : s.validate = .ok ()) : ∃ d : Deployment K R M, create service route memory s = .ok d ∧
      d.settings = s ∧ d.nodes = List.range s.nodes.length ∧ d.shared.topology = s.topology := by
  have run := Assembly.run_ofSettings (Settings.validate_eq_ok_iff.1 valid)
  simp [create, valid, run, bind, Except.bind, Except.mapError, pure, Except.pure]

end Deployment

end MockCluster
