import MockCluster.Proofs.Topology.Revision

/-!
# What mutations do and leave alone

A mutation is refused for one of a few reasons (`Mutation.Refused`), and then everything is published on as it was, also
if it had worked on the topology before it failed. Otherwise the next revision is published, in which the target of the
mutation is changed and nothing besides (`Mutation.Effect`).

| mutation | refused if | changes |
| --- | --- | --- |
| a node is added | never | the last place among the nodes; how buckets are spread |
| a node is removed | it is not there | this node; how buckets are spread |
| a node gets a port, an address or a network | it is not there | this entry of this node |
| a bucket is added | its name is taken | this bucket |
| a bucket is removed | it is not there | this bucket |
| anything else | it says so | whatever it likes |

That only one node changes rests on the invariant that no two nodes have one number (`Balanced`).
-/

namespace MockCluster

/-- A node gets a port on its default address; all its other ports, and all else about it, stay. -/
structure Node.GetsPort (service : Service) (port : UInt16) (node node' : Node) : Prop where
  ports : ∀ s, node'.defaultAddress.ports.get? s =
    if s = service then some port else node.defaultAddress.ports.get? s
  rest : { node' with defaultAddress := { node'.defaultAddress with ports := node.defaultAddress.ports } } = node

/-- A node gets an address on a named network; all its other addresses, and all else about it, stay. -/
structure Node.GetsAlternate (network : String) (address : Address) (node node' : Node) : Prop where
  alternates : ∀ name, node'.alternates.get? name = if name = network then some address else node.alternates.get? name
  rest : { node' with alternates := node.alternates } = node

/-- A node gets another network to advertise, and all else about it stays. -/
structure Node.GetsNetwork (network : Network) (node node' : Node) : Prop where
  network_eq : node'.network = network
  rest : { node' with network := node.network } = node

/-- A bucket may be spread in another way over as many vbuckets, and all else about it stays. -/
structure Bucket.Respread (b b' : Bucket) : Prop where
  vbuckets : b'.vbuckets = b.vbuckets
  rest : { b' with map := b.map } = b

theorem Bucket.respread_rebalance (b : Bucket) (nodes : List NodeId) : b.Respread (b.rebalance nodes) where
  vbuckets := by simp [Bucket.rebalance, Bucket.vbuckets]
  rest := rfl

namespace Topology

/-- Work on a topology in place. If it fails, the topology stays as far as the work had come. -/
abbrev Work (α : Type) := Topology → Except Fault α × Topology

/-- The edit that does some work; what failed work leaves is dropped. -/
def Work.edit {α : Type} (work : Work α) : Edit α := fun t =>
  match work t with
  | (.ok result, next) => .ok (result, next)
  | (.error fault, _) => .error fault

/-- The node that has to be there for a mutation. -/
def Mutation.node? : Mutation → Option NodeId
  | removeNode id | setPort id .. | setAlternate id .. | setNetwork id _ => some id
  | addNode .. | addBucket _ | removeBucket _ | restore .. => none

/-- Why a mutation is refused. -/
inductive Mutation.Refused (t : Topology) : Mutation → Fault → Prop
  /-- The node is not there. -/
  | unknownNode {m : Mutation} {id : NodeId} (names : m.node? = some id) (unknown : ∀ node ∈ t.nodes, node.id ≠ id) :
      Refused t m (.unknownNode id)
  /-- There is such a bucket. -/
  | bucketExists {spec : BucketSpec} {b : Bucket} (taken : t.bucket? spec.name = some b) :
      Refused t (.addBucket spec) (.bucketExists spec.name)
  /-- There is no such bucket. -/
  | bucketNotFound {name : String} (absent : t.bucket? name = none) :
      Refused t (.removeBucket name) (.bucketNotFound name)
  /-- An earlier topology is put back, and then the mutation fails all the same. -/
  | failed (earlier : Topology) (fault : Fault) : Refused t (.restore earlier (some fault)) fault

/-- One node is replaced in its place. No other node has its number. -/
structure ReplacesNode (t next : Topology) (id : NodeId) (changed : Node → Node → Prop) : Prop where
  nodes : ∃ before node node' behind,
    t.nodes = before ++ node :: behind ∧ next.nodes = before ++ node' :: behind ∧
      node.id = id ∧ changed node node' ∧ ∀ other ∈ before ++ behind, other.id ≠ id
  nextNode : next.nextNode = t.nextNode
  buckets : next.buckets = t.buckets

/-- Nodes come or go, and buckets are spread anew: each stays what it is, under its name. -/
def RespreadsBuckets (t next : Topology) : Prop :=
  ∀ name, Option.Rel Bucket.Respread (t.bucket? name) (next.bucket? name)

/-- What a mutation does to its target, and that all else stays. -/
inductive Mutation.Effect (t next : Topology) : Mutation → Prop
  | addNode {hostname : String} {services : List Service}
      (nodes : next.nodes = t.nodes ++ [Node.create t.nextNode hostname services])
      (nextNode : next.nextNode = t.nextNode + 1) (buckets : t.RespreadsBuckets next) :
      Effect t next (.addNode hostname services)
  | removeNode {id : NodeId} {before behind : List Node} {node : Node} (found : t.nodes = before ++ node :: behind)
      (id_eq : node.id = id) (nodes : next.nodes = before ++ behind) (gone : ∀ other ∈ next.nodes, other.id ≠ id)
      (nextNode : next.nextNode = t.nextNode) (buckets : t.RespreadsBuckets next) : Effect t next (.removeNode id)
  | setPort {id : NodeId} {service : Service} {port : UInt16}
      (node : t.ReplacesNode next id (Node.GetsPort service port)) : Effect t next (.setPort id service port)
  | setAlternate {id : NodeId} {network : String} {address : Address}
      (node : t.ReplacesNode next id (Node.GetsAlternate network address)) :
      Effect t next (.setAlternate id network address)
  | setNetwork {id : NodeId} {network : Network} (node : t.ReplacesNode next id (Node.GetsNetwork network)) :
      Effect t next (.setNetwork id network)
  | addBucket {spec : BucketSpec} {b : Bucket} (nodes : next.nodes = t.nodes) (nextNode : next.nextNode = t.nextNode)
      (added : next.bucket? spec.name = some b) (others : ∀ name, name ≠ spec.name → next.bucket? name = t.bucket? name)
      (name_eq : b.name = spec.name) (replicas_eq : b.replicas = spec.replicas)
      (vbuckets_eq : b.vbuckets = spec.vbuckets)
      (capabilities_eq : b.capabilities = spec.capabilities.getD BucketCapability.defaults) :
      Effect t next (.addBucket spec)
  | removeBucket {name : String} (nodes : next.nodes = t.nodes) (nextNode : next.nextNode = t.nextNode)
      (gone : next.bucket? name = none) (others : ∀ other, other ≠ name → next.bucket? other = t.bucket? other) :
      Effect t next (.removeBucket name)

section Refused

variable {t : Topology} {m : Mutation} {fault : Fault} {id : NodeId}

theorem node?_eq_none_iff : t.node? id = none ↔ ∀ node ∈ t.nodes, node.id ≠ id := by
  simp [node?]

theorem nodeIndex?_eq_none_iff : t.nodeIndex? id = none ↔ ∀ node ∈ t.nodes, node.id ≠ id := by
  simp [nodeIndex?]

theorem refused_iff_of_node? (names : m.node? = some id) :
    m.Refused t fault ↔ fault = .unknownNode id ∧ ∀ node ∈ t.nodes, node.id ≠ id := by
  constructor
  · intro refused
    cases refused with
    | unknownNode names' unknown =>
      obtain rfl := Option.some.inj (names.symm.trans names')
      exact ⟨rfl, unknown⟩
    | _ => cases names
  · rintro ⟨rfl, unknown⟩
    exact .unknownNode names unknown

theorem edit_changeNode_error_iff {f : Node → Node} :
    (Edit.changeNode id f t).map (fun (_, t) => ((none : Option NodeId), t)) = .error fault ↔
      fault = .unknownNode id ∧ ∀ node ∈ t.nodes, node.id ≠ id := by
  rw [← node?_eq_none_iff]
  cases h : t.node? id <;> simp [Edit.changeNode, h, Except.map, eq_comm]

/-- **A mutation fails for the reasons given, and for no other.** -/
theorem edit_error_iff : m.edit t = .error fault ↔ m.Refused t fault := by
  cases m with
  | addNode =>
    refine ⟨fun h => ?_, fun refused => ?_⟩
    · simp [Mutation.edit, Edit.addNode, Except.map] at h
    · cases refused with
      | unknownNode names => cases names
  | removeNode id =>
    rw [refused_iff_of_node? rfl, ← nodeIndex?_eq_none_iff]
    cases h : t.nodeIndex? id <;> simp [Mutation.edit, Edit.removeNode, h, Except.map, eq_comm]
  | setPort | setAlternate | setNetwork =>
    rw [refused_iff_of_node? rfl]
    exact edit_changeNode_error_iff
  | addBucket spec =>
    constructor
    · intro h
      cases hb : t.bucket? spec.name with
      | none => simp [Mutation.edit, Edit.addBucket, hb, Except.map] at h
      | some b =>
        obtain rfl : Fault.bucketExists spec.name = fault := by
          simpa [Mutation.edit, Edit.addBucket, hb, Except.map] using h
        exact .bucketExists hb
    · intro refused
      cases refused with
      | unknownNode names => cases names
      | bucketExists taken => simp [Mutation.edit, Edit.addBucket, taken, Except.map]
  | removeBucket name =>
    constructor
    · intro h
      cases hb : t.bucket? name with
      | some b => simp [Mutation.edit, Edit.removeBucket, hb, Except.map] at h
      | none =>
        obtain rfl : Fault.bucketNotFound name = fault := by
          simpa [Mutation.edit, Edit.removeBucket, hb, Except.map] using h
        exact .bucketNotFound hb
    · intro refused
      cases refused with
      | unknownNode names => cases names
      | bucketNotFound absent => simp [Mutation.edit, Edit.removeBucket, absent, Except.map]
  | restore earlier planned =>
    cases planned with
    | none =>
      refine ⟨fun h => ?_, fun refused => ?_⟩
      · cases h
      · cases refused with
        | unknownNode names => cases names
    | some planned =>
      constructor
      · rintro ⟨⟩
        exact .failed earlier _
      · intro refused
        cases refused with
        | unknownNode names => cases names
        | failed => rfl

end Refused

section Effect

variable {t next : Topology} {m : Mutation} {id : NodeId} {node : Node} {before behind : List Node}

theorem Balanced.ne_of_split (h : t.Balanced) (split : t.nodes = before ++ node :: behind) :
    ∀ other ∈ before ++ behind, other.id ≠ node.id := by
  have distinct := h.nodup
  rw [split, List.map_append, List.map_cons, List.nodup_middle, ← List.map_append] at distinct
  intro other ho same
  exact (List.nodup_cons.1 distinct).1 (List.mem_map.2 ⟨other, ho, same⟩)

/-- If a node is changed that is there, it is replaced in its place. -/
theorem Balanced.replacesNode (h : t.Balanced) (found : t.node? id = some node) {f : Node → Node}
    {changed : Node → Node → Prop} (hf : ∀ node, changed node (f node)) (revision : Nat) :
    t.ReplacesNode { t.modifyNode id f with revision := revision } id changed where
  nodes := by
    obtain rfl : node.id = id := by simpa using List.find?_some found
    obtain ⟨before, behind, split⟩ := List.append_of_mem (List.mem_of_find?_eq_some found)
    have others := h.ne_of_split split
    have kept (part : List Node) (hp : part ⊆ before ++ behind) :
        part.map (fun n => if n.id = node.id then f n else n) = part := calc
      _ = part.map id := List.map_congr_left fun n hn => if_neg (others n (hp hn))
      _ = part := List.map_id part
    refine ⟨before, node, f node, behind, split, ?_, rfl, hf node, others⟩
    rw [Topology.modifyNode, split, List.map_append, List.map_cons, if_pos rfl,
      kept before (List.subset_append_left ..), kept behind (List.subset_append_right ..)]
  nextNode := rfl
  buckets := rfl

theorem respreadsBuckets_of_rebalance {nodes : List NodeId}
    (spread : next.buckets = t.buckets.map (Bucket.rebalance nodes)) : t.RespreadsBuckets next := by
  intro name
  rw [bucket?, bucket?, spread, NameMap.get?_map]
  cases t.buckets.get? name with
  | none => exact .none
  | some b => exact .some (b.respread_rebalance nodes)

theorem Balanced.effect_removeNode (h : t.Balanced) {index : Nat} (found : t.nodeIndex? id = some index)
    (revision : Nat) :
    Mutation.Effect t { ({ t with nodes := t.nodes.eraseIdx index } : Topology).rebalance with revision := revision }
      (.removeNode id) := by
  obtain ⟨hi, he, -⟩ := List.findIdx?_eq_some_iff_getElem.1 found
  have id_eq : t.nodes[index].id = id := by simpa using he
  have split : t.nodes = t.nodes.take index ++ t.nodes[index] :: t.nodes.drop (index + 1) := by
    rw [← List.drop_eq_getElem_cons hi, List.take_append_drop]
  have left : t.nodes.eraseIdx index = t.nodes.take index ++ t.nodes.drop (index + 1) :=
    List.eraseIdx_eq_take_drop_succ ..
  refine .removeNode split id_eq left (fun other ho => ?_) rfl (respreadsBuckets_of_rebalance rfl)
  rw [← id_eq]
  exact h.ne_of_split split other (left ▸ ho)

/-- **A mutation changes its target and nothing besides.** -/
theorem Mutation.Yields.effect (yields : m.Yields t next) (h : t.Balanced)
    (named : ∀ earlier fault, m ≠ .restore earlier fault) (revision : Nat) :
    m.Effect t { next with revision := revision } := by
  cases yields with
  | addNode hostname services => exact .addNode rfl rfl (respreadsBuckets_of_rebalance rfl)
  | removeNode found => exact h.effect_removeNode found revision
  | setPort found service port =>
    exact .setPort (h.replacesNode found (fun node => ⟨fun _ => rfl, rfl⟩) revision)
  | setAlternate found network address =>
    exact .setAlternate (h.replacesNode found (fun node => ⟨fun _ => NameMap.get?_insert .., rfl⟩) revision)
  | setNetwork found network => exact .setNetwork (h.replacesNode found (fun node => ⟨rfl, rfl⟩) revision)
  | @addBucket spec absent =>
    have get (name : String) (b : Bucket) :
        (t.buckets.insert spec.name b).get? name = if name = spec.name then some b else t.buckets.get? name :=
      NameMap.get?_insert ..
    refine .addBucket rfl rfl ((get _ _).trans (if_pos rfl)) (fun name differs => (get _ _).trans (if_neg differs))
      rfl rfl ?_ rfl
    simp [Bucket.create, Bucket.vbuckets, Bucket.layout]
  | @removeBucket name b found =>
    have get (other : String) :
        (t.buckets.erase name).get? other = if other = name then none else t.buckets.get? other :=
      NameMap.get?_erase ..
    exact .removeBucket rfl rfl ((get _).trans (if_pos rfl)) fun other differs => (get _).trans (if_neg differs)
  | restore => exact absurd rfl (named _ none)

/-- Only what is put back brings its own revision along. -/
theorem Mutation.Yields.revision_eq (yields : m.Yields t next) (named : ∀ earlier fault, m ≠ .restore earlier fault) :
    next.revision = t.revision ∧ next.capabilities = t.capabilities := by
  cases yields with
  | restore => exact absurd rfl (named _ none)
  | _ => exact ⟨rfl, rfl⟩

/-- **All or nothing.** A mutation fails for the reasons given and for no other, and also work that fails half done
leaves nothing behind: what is published stays as it was, in all its parts. If a mutation other than putting something
back succeeds, it publishes the next revision, in which its target is changed and nothing besides. -/
theorem mutate_of_history {ms : List Mutation} {past : List Topology} (h : History ms (t :: past)) :
    (∀ m fault, (t.mutate m).1 = .error fault ↔ m.Refused t fault) ∧
    (∀ m fault, (t.mutate m).1 = .error fault → (t.mutate m).2 = t) ∧
    (∀ {α : Type} (work : Work α), (t.update work.edit).1 = (work t).1 ∧
      ∀ fault, (work t).1 = .error fault → (t.update work.edit).2 = t) ∧
    ∀ m result next, t.mutate m = (.ok result, next) → (∀ earlier fault, m ≠ .restore earlier fault) →
      next.revision = t.revision + 1 ∧ next.capabilities = t.capabilities ∧ m.Effect t next := by
  have balanced : t.Balanced := h.balanced t List.mem_cons_self
  refine ⟨fun m fault => ?_, fun m fault he => eq_of_mutate_error (Prod.ext he rfl), fun work => ?_,
    fun m result next hm named => ?_⟩
  · rw [← edit_error_iff, mutate, update]
    cases m.edit t <;> simp
  · rw [update, Work.edit]
    rcases work t with ⟨_ | _, next⟩ <;> simp
  · obtain ⟨yielded, yields, rfl⟩ := yields_of_mutate hm
    obtain ⟨revision_eq, capabilities_eq⟩ := yields.revision_eq named
    exact ⟨congrArg (· + 1) revision_eq, capabilities_eq, yields.effect balanced named _⟩

/-- One of two nodes has left. It cannot be given a port any more; work that takes the bucket away and then fails leaves
the bucket there; and the node that stayed is given a port. -/
theorem mutate_of_history_removed :
    let t := mutateAll [.addNode "a" [.kv], .addNode "b" [.kv], .addBucket ⟨"x", 1, 2, none⟩, .removeNode 0] initial
    let half : Work Unit := fun t => (.error (.handler "half done"), (t.mutate (.removeBucket "x")).2)
    t.mutate (.setPort 0 .kv 11210) = (.error (.unknownNode 0), t) ∧
      (half t).2.bucket? "x" = none ∧ t.update half.edit = (.error (.handler "half done"), t) ∧
      ∃ next, t.mutate (.setPort 1 .kv 11210) = (.ok none, next) ∧ next.revision = 6 ∧
        Mutation.Effect t next (.setPort 1 .kv 11210) := by
  intro t half
  have history : History _ _ :=
    .mutate (.mutate (.mutate (.mutate .start
      (.addNode "a" [.kv]) nofun) (.addNode "b" [.kv]) nofun) (.addBucket ⟨"x", 1, 2, none⟩) nofun)
      (.removeNode 0) nofun
  obtain ⟨refused_iff, unchanged, worked, done⟩ := mutate_of_history history
  have refused : (t.mutate (.setPort 0 .kv 11210)).1 = .error (.unknownNode 0) :=
    (refused_iff _ _).2 (.unknownNode rfl (by decide))
  obtain ⟨result, dropped⟩ := worked half
  obtain ⟨revision, -, effect⟩ := done (.setPort 1 .kv 11210) none _ rfl nofun
  exact ⟨Prod.ext refused (unchanged _ _ refused), by decide, Prod.ext result (dropped _ rfl), _, rfl, revision, effect⟩

end Effect

end Topology

end MockCluster
