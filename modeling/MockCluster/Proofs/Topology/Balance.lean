import MockCluster.Cluster.Observed

/-!
# Balance

Whatever is done to a cluster, each of its buckets is spread over the nodes that hold documents now, exactly as a new
bucket would be. No trace is left of the nodes that were there when the bucket was created, nor of those that came and
went since. An earlier topology may be put back at any time, so the property has to hold of every topology that was
ever published (`History`), not of the latest one only.

| mutation | what keeps the balance |
| --- | --- |
| a node is added or removed | every bucket is spread anew |
| a node gets a port, an address or a network | its number and its services stay |
| a bucket is added | it is laid out over the current nodes |
| a bucket is removed | the others stay |
| an earlier topology is put back | its nodes and its buckets come back together |

`Balanced` is the invariant. Each edit keeps it, so it holds along every history (`History.balanced`).
-/

namespace MockCluster

namespace NameMap

variable {α β : Type} {m : NameMap α} {name : String} {value : α}

theorem mem_entries_map {f : α → β} {other : β} :
    (name, other) ∈ (m.map f).entries ↔ ∃ value, (name, value) ∈ m.entries ∧ f value = other := by
  simp only [map, List.mem_map, Prod.mk.injEq, Prod.exists]
  constructor
  · rintro ⟨_, value, he, rfl, hv⟩
    exact ⟨value, he, hv⟩
  · rintro ⟨value, he, hv⟩
    exact ⟨name, value, he, rfl, hv⟩

end NameMap

/-- A bucket keeps to its name, and is laid out over the given nodes as a new one would be. -/
structure Bucket.LaidOut (nodes : List NodeId) (name : String) (b : Bucket) : Prop where
  name_eq : b.name = name
  uuid_eq : b.uuid = uuidOf name
  map_eq : b.map = layout nodes b.replicas b.vbuckets

namespace Bucket

variable {nodes : List NodeId} {name : String} {b : Bucket}

theorem LaidOut.rebalance (h : b.LaidOut nodes name) (others : List NodeId) :
    (b.rebalance others).LaidOut others name where
  name_eq := h.name_eq
  uuid_eq := h.uuid_eq
  map_eq := by
    have same : (b.rebalance others).vbuckets = b.vbuckets := by simp [Bucket.rebalance, vbuckets]
    rw [map_rebalance, same]
    rfl

theorem laidOut_create (name : String) (replicas vbuckets : Nat) (nodes : List NodeId)
    (capabilities : List BucketCapability) :
    LaidOut nodes name { create name replicas vbuckets nodes with capabilities := capabilities } where
  name_eq := rfl
  uuid_eq := rfl
  map_eq := by simp [create, Bucket.vbuckets, layout]

/-- Only the given nodes have slots. -/
theorem LaidOut.mem_of_slot (h : b.LaidOut nodes name) {row : VbucketRow} (hr : row ∈ b.map) {id : NodeId}
    (hs : some id ∈ row) : id ∈ nodes := by
  rw [h.map_eq, layout] at hr
  obtain ⟨vbucket, -, rfl⟩ := List.mem_map.1 hr
  obtain ⟨slot, -, he⟩ := List.mem_map.1 hs
  split at he
  · exact List.mem_of_getElem? he
  · cases he

end Bucket

namespace Topology

section Yields

/-- What a mutation makes of a topology if it succeeds. -/
inductive Mutation.Yields (t : Topology) : Mutation → Topology → Prop
  | addNode (hostname : String) (services : List Service) :
      Yields t (.addNode hostname services)
        { t with
          nextNode := t.nextNode + 1
          nodes := t.nodes ++ [Node.create t.nextNode hostname services] }.rebalance
  | removeNode {id : NodeId} {index : Nat} (found : t.nodeIndex? id = some index) :
      Yields t (.removeNode id) { t with nodes := t.nodes.eraseIdx index }.rebalance
  | setPort {id : NodeId} {node : Node} (found : t.node? id = some node) (service : Service) (port : UInt16) :
      Yields t (.setPort id service port) (t.modifyNode id (·.setPort service port))
  | setAlternate {id : NodeId} {node : Node} (found : t.node? id = some node) (network : String) (address : Address) :
      Yields t (.setAlternate id network address) (t.modifyNode id (·.setAlternate network address))
  | setNetwork {id : NodeId} {node : Node} (found : t.node? id = some node) (network : Network) :
      Yields t (.setNetwork id network) (t.modifyNode id (·.setNetwork network))
  | addBucket {spec : BucketSpec} (absent : t.bucket? spec.name = none) :
      Yields t (.addBucket spec)
        { t with
          buckets := t.buckets.insert spec.name
            { Bucket.create spec.name spec.replicas spec.vbuckets t.kvNodeIds with
              capabilities := spec.capabilities.getD BucketCapability.defaults } }
  | removeBucket {name : String} {b : Bucket} (found : t.bucket? name = some b) :
      Yields t (.removeBucket name) { t with buckets := t.buckets.erase name }
  | restore (earlier : Topology) : Yields t (.restore earlier none) earlier

variable {t next : Topology} {m : Mutation} {result : Option NodeId}

theorem Mutation.yields_of_edit (h : m.edit t = .ok (result, next)) : m.Yields t next := by
  cases m with
  | addNode hostname services =>
    obtain ⟨-, rfl⟩ := Prod.mk.inj (Except.ok.inj h)
    exact .addNode hostname services
  | removeNode | setPort | setAlternate | setNetwork | addBucket | removeBucket =>
    simp only [Mutation.edit, Edit.removeNode, Edit.setPort, Edit.setAlternate, Edit.setNetwork, Edit.changeNode,
      Edit.addBucket, Edit.removeBucket] at h
    -- All of these look something up first, and fail if it is not as it has to be.
    split at h
    · cases h
    · obtain ⟨-, rfl⟩ := Prod.mk.inj (Except.ok.inj h)
      constructor
      assumption
  | restore earlier fault =>
    cases fault with
    | some => cases h
    | none =>
      obtain ⟨-, rfl⟩ := Prod.mk.inj (Except.ok.inj h)
      exact .restore _

/-- A failed mutation publishes nothing; a successful one publishes what it yields, under the next revision. -/
theorem mutate_cases (m : Mutation) (t : Topology) :
    (t.mutate m).2 = t ∨ ∃ next, m.Yields t next ∧ (t.mutate m).2 = { next with revision := next.revision + 1 } := by
  cases he : m.edit t with
  | error fault => exact .inl (congrArg Prod.snd (update_error he))
  | ok yielded => exact .inr ⟨yielded.2, Mutation.yields_of_edit he, congrArg Prod.snd (update_ok he)⟩

end Yields

section Balanced

/-- What holds of every topology that is ever published. -/
structure Balanced (t : Topology) : Prop where
  ascending : (t.nodes.map (·.id)).Pairwise (· < ·)
  given : ∀ node ∈ t.nodes, node.id < t.nextNode
  laidOut : ∀ name b, (name, b) ∈ t.buckets.entries → b.LaidOut t.kvNodeIds name

variable {t next : Topology} {m : Mutation}

theorem balanced_initial : initial.Balanced where
  ascending := .nil
  given := nofun
  laidOut := nofun

/-- Spreading anew needs nothing of the layout there was, except that buckets keep to their names. -/
theorem balanced_rebalance {ids : List NodeId} (ascending : (t.nodes.map (·.id)).Pairwise (· < ·))
    (given : ∀ node ∈ t.nodes, node.id < t.nextNode)
    (laidOut : ∀ name b, (name, b) ∈ t.buckets.entries → b.LaidOut ids name) : t.rebalance.Balanced where
  ascending := ascending
  given := given
  laidOut name b hb := by
    obtain ⟨old, hold, rfl⟩ := NameMap.mem_entries_map.1 hb
    exact (laidOut name old hold).rebalance t.kvNodeIds

/-- A node that keeps its number and its services is the same node to every bucket. -/
theorem Balanced.modifyNode (h : t.Balanced) {id : NodeId} {f : Node → Node} (hid : ∀ node, (f node).id = node.id)
    (hservices : ∀ node, (f node).services = node.services) : (t.modifyNode id f).Balanced := by
  let g : Node → Node := fun node => if node.id = id then f node else node
  have gid (node : Node) : (g node).id = node.id := by
    by_cases hn : node.id = id <;> simp [g, hn, hid]
  have gruns (node : Node) : (g node).runs .kv = node.runs .kv := by
    by_cases hn : node.id = id <;> simp [g, hn, Node.runs, hservices]
  have ids : (t.nodes.map g).map (·.id) = t.nodes.map (·.id) := by simp [gid]
  have kvIds : (t.modifyNode id f).kvNodeIds = t.kvNodeIds := by
    change ((t.nodes.map g).filter (·.runs .kv)).map (·.id) = _
    simp [List.filter_map, Function.comp_def, gid, gruns, kvNodeIds, kvNodes]
  refine ⟨?_, fun node hn => ?_, fun name b hb => ?_⟩
  · change ((t.nodes.map g).map (·.id)).Pairwise (· < ·)
    rw [ids]
    exact h.ascending
  · obtain ⟨old, hold, rfl⟩ := List.mem_map.1 hn
    change (g old).id < t.nextNode
    rw [gid]
    exact h.given old hold
  · rw [kvIds]
    exact h.laidOut name b hb

/-- **Every mutation keeps the balance.** -/
theorem Mutation.Yields.balanced (yields : m.Yields t next) (h : t.Balanced)
    (known : ∀ earlier fault, m = .restore earlier fault → earlier.Balanced) : next.Balanced := by
  cases yields with
  | addNode hostname services =>
    refine balanced_rebalance ?_ (fun node hn => ?_) h.laidOut
    · rw [List.map_append, List.pairwise_append]
      refine ⟨h.ascending, by simp, ?_⟩
      simpa [Node.create] using h.given
    · obtain hn | hn := List.mem_append.1 hn
      · exact Nat.lt_succ_of_lt (h.given node hn)
      · obtain rfl := List.mem_singleton.1 hn
        exact Nat.lt_succ_self _
  | @removeNode id index found =>
    have fewer : (t.nodes.eraseIdx index).Sublist t.nodes := List.eraseIdx_sublist t.nodes index
    have given : ∀ node ∈ t.nodes.eraseIdx index, node.id < t.nextNode := fun node hn => h.given node (fewer.subset hn)
    exact balanced_rebalance (h.ascending.sublist (fewer.map _)) given h.laidOut
  | setPort | setAlternate | setNetwork => exact h.modifyNode (fun _ => rfl) (fun _ => rfl)
  | addBucket absent =>
    refine ⟨h.ascending, h.given, fun name b hb => ?_⟩
    obtain hb | hb := NameMap.mem_insertEntry hb
    · obtain ⟨rfl, rfl⟩ := Prod.mk.inj hb
      exact Bucket.laidOut_create ..
    · exact h.laidOut name b hb
  | removeBucket found => exact ⟨h.ascending, h.given, fun name b hb => h.laidOut name b (List.mem_filter.1 hb).1⟩
  | restore earlier => exact known _ none rfl

end Balanced

/-- Whether a node is added. -/
def Mutation.addsNode : Mutation → Bool
  | addNode .. => true
  | _ => false

/-- Only adding a node uses up a number. -/
theorem Mutation.Yields.nextNode_le {t next : Topology} {m : Mutation} {n : Nat} (yields : m.Yields t next)
    (h : t.nextNode ≤ n) (known : ∀ earlier fault, m = .restore earlier fault → earlier.nextNode ≤ n) :
    next.nextNode ≤ n + if m.addsNode then 1 else 0 := by
  cases yields with
  | addNode => exact Nat.succ_le_succ h
  | restore earlier => exact known _ none rfl
  | _ => exact h

/-- The topologies that were published, the latest first, and the mutations that led there, the latest first. What was
published can be put back. -/
inductive History : List Mutation → List Topology → Prop
  | start : History [] [initial]
  | mutate {ms : List Mutation} {t : Topology} {past : List Topology} (history : History ms (t :: past)) (m : Mutation)
      (known : ∀ earlier fault, m = .restore earlier fault → earlier ∈ t :: past) :
      History (m :: ms) ((t.mutate m).2 :: t :: past)

namespace History

variable {ms : List Mutation} {published : List Topology}

theorem balanced (h : History ms published) : ∀ t ∈ published, t.Balanced := by
  induction h with
  | start => simpa using balanced_initial
  | @mutate ms t past _ m known ih =>
    -- All that was published has to be balanced, since any of it may be put back.
    refine List.forall_mem_cons.2 ⟨?_, ih⟩
    obtain he | ⟨next, yields, he⟩ := mutate_cases m t
    · rw [he]
      exact ih t List.mem_cons_self
    · rw [he]
      have hn := yields.balanced (ih t List.mem_cons_self) fun earlier fault hm => ih earlier (known earlier fault hm)
      exact ⟨hn.ascending, hn.given, hn.laidOut⟩

/-- There are no more numbers of nodes than nodes that were added. -/
theorem nextNode_le (h : History ms published) : ∀ t ∈ published, t.nextNode ≤ ms.countP Mutation.addsNode := by
  induction h with
  | start => simp [initial]
  | @mutate ms t past _ m known ih =>
    have more : ms.countP Mutation.addsNode ≤ (m :: ms).countP Mutation.addsNode := by
      rw [List.countP_cons]
      exact Nat.le_add_right _ _
    refine List.forall_mem_cons.2 ⟨?_, fun earlier he => Nat.le_trans (ih earlier he) more⟩
    obtain he | ⟨next, yields, he⟩ := mutate_cases m t
    · rw [he]
      exact Nat.le_trans (ih t List.mem_cons_self) more
    · rw [he, List.countP_cons]
      exact yields.nextNode_le (ih t List.mem_cons_self) fun earlier fault hm => ih earlier (known earlier fault hm)

end History

/-- **Buckets are spread over the nodes of the moment.** Whatever is done to a cluster, also if earlier states are put
back, its nodes stand in the order of their numbers, and each bucket is laid out as a new one of its name and its size
would be. The numbers fit into 32 bits as long as no more nodes are added. -/
theorem laidOut_of_history {ms : List Mutation} {t : Topology} {past : List Topology} (h : History ms (t :: past))
    (few : ms.countP Mutation.addsNode < UInt32.size) :
    (t.nodes.map (·.id)).Pairwise (· < ·) ∧
    (∀ node ∈ t.nodes, node.id < t.nextNode) ∧
    t.nextNode < UInt32.size ∧
    ∀ name b, (name, b) ∈ t.buckets.entries →
      b.name = name ∧
      b.uuid = Bucket.uuidOf name ∧
      b.map = (Bucket.create name b.replicas b.vbuckets t.kvNodeIds).map ∧
      ∀ row ∈ b.map, ∀ slot ∈ row, slot = none ∨ ∃ node ∈ t.nodes, slot = some node.id ∧ node.runs .kv = true := by
  have balanced : t.Balanced := h.balanced t List.mem_cons_self
  have numbers : t.nextNode < UInt32.size := Nat.lt_of_le_of_lt (h.nextNode_le t List.mem_cons_self) few
  refine ⟨balanced.ascending, balanced.given, numbers, fun name b hb => ?_⟩
  have laidOut : b.LaidOut t.kvNodeIds name := balanced.laidOut name b hb
  refine ⟨laidOut.name_eq, laidOut.uuid_eq, laidOut.map_eq, fun row hr slot hs => ?_⟩
  cases slot with
  | none => exact .inl rfl
  | some id =>
    obtain ⟨node, hn, rfl⟩ := List.mem_map.1 (laidOut.mem_of_slot hr hs)
    obtain ⟨hn, runs⟩ := List.mem_filter.1 hn
    exact .inr ⟨node, hn, rfl, runs⟩

/-- A bucket is created on one node, another node joins, the first one leaves, and then the state before is put back. -/
theorem laidOut_of_history_restored :
    let joined := mutateAll
      [.addNode "a" [.kv], .addNode "b" [.query], .addBucket ⟨"x", 1, 2, none⟩, .addNode "c" [.kv]] initial
    let left := mutateAll [.removeNode 0] joined
    let restored := mutateAll [.restore joined none] left
    (left.nodes.map (·.id), (left.bucket? "x").map (·.map)) = ([1, 2], some [[some 2, none], [some 2, none]]) ∧
      (restored.bucket? "x").map (·.map) = some [[some 0, some 2], [some 2, some 0]] ∧
      ∃ ms past, History ms (restored :: past) ∧ (restored.nodes.map (·.id)).Pairwise (· < ·) ∧
        ∀ name b, (name, b) ∈ restored.buckets.entries →
          b.map = (Bucket.create name b.replicas b.vbuckets restored.kvNodeIds).map := by
  intro joined left restored
  have history : History _ _ :=
    .mutate (.mutate (.mutate (.mutate (.mutate (.mutate .start
      (.addNode "a" [.kv]) nofun) (.addNode "b" [.query]) nofun) (.addBucket ⟨"x", 1, 2, none⟩) nofun)
      (.addNode "c" [.kv]) nofun) (.removeNode 0) nofun) (.restore joined none) (by
        rintro earlier fault ⟨⟩
        exact List.mem_cons_of_mem _ List.mem_cons_self)
  obtain ⟨ascending, -, -, laidOut⟩ := laidOut_of_history history (by decide)
  exact ⟨by decide, by decide, _, _, history, ascending, fun name b hb => (laidOut name b hb).2.2.1⟩

end Topology

/-- A step that puts back nothing but what was set aside. -/
def ClusterStep.Own (step : ClusterStep) : Prop := ∀ earlier fault, step ≠ .mutate (.restore earlier fault)

namespace Cluster

/-- The current topology was published last, and what is set aside was published. -/
def Known (c : Cluster) : Prop :=
  ∃ ms past, Topology.History ms (c.topology :: past) ∧
    ∀ name t, (name, t) ∈ c.saved.entries → t ∈ c.topology :: past

theorem known_initial : initial.Known := ⟨[], [], .start, nofun⟩

variable {c : Cluster}

theorem Known.mutate (h : c.Known) (m : Topology.Mutation)
    (known : ∀ earlier fault, m = .restore earlier fault → ∃ saved, earlier = c.view saved) :
    Known { c with topology := (c.topology.mutate m).2 } := by
  obtain ⟨ms, past, history, saved⟩ := h
  refine ⟨m :: ms, c.topology :: past, history.mutate m fun earlier fault hm => ?_,
    fun name t ht => List.mem_cons_of_mem _ (saved name t ht)⟩
  obtain ⟨name, rfl⟩ := known earlier fault hm
  unfold view
  cases hn : name.bind c.saved.get? with
  | none => exact List.mem_cons_self
  | some t =>
    obtain ⟨name, -, hs⟩ := Option.bind_eq_some_iff.1 hn
    exact saved name t (NameMap.mem_entries_of_get? hs)

theorem Known.run (h : c.Known) (step : ClusterStep) (own : step.Own) : (c.run step).2.Known := by
  cases step with
  | mutate m =>
    have mutated := h.mutate m fun earlier fault hm => absurd (congrArg ClusterStep.mutate hm) (own earlier fault)
    cases m <;> exact mutated
  | save name =>
    obtain ⟨ms, past, history, saved⟩ := h
    refine ⟨ms, past, history, fun other t ht => ?_⟩
    obtain ht | ht := NameMap.mem_insertEntry ht
    · obtain ⟨-, rfl⟩ := Prod.mk.inj ht
      exact List.mem_cons_self
    · exact saved other t ht
  | restore name failure =>
    have mutated := h.mutate (.restore (c.view (some name)) (failure.map .handler)) (by
      rintro earlier fault ⟨⟩
      exact ⟨some name, rfl⟩)
    cases failure <;> exact mutated
  | _ => exact h

/-- **Every run of a cluster is a history.** -/
theorem known_runAll (steps : List ClusterStep) (own : ∀ step ∈ steps, step.Own) : (initial.runAll steps).Known := by
  suffices ∀ c : Cluster, c.Known → (c.runAll steps).Known from this initial known_initial
  induction steps with
  | nil => exact fun c h => h
  | cons step steps ih =>
    intro c h
    exact ih (fun s hs => own s (List.mem_cons_of_mem _ hs)) _ (h.run step (own step List.mem_cons_self))

end Cluster

end MockCluster
