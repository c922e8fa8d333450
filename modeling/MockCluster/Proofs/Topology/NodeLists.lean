import MockCluster.Proofs.Topology.Requesters
import MockCluster.Proofs.Topology.Servers

/-!
# The two lists of nodes

A document about a bucket has two lists with the nodes that hold documents in it. `nodesExt` gives the ports by service.
`nodes` is what older clients read, and has a field of its own for each of three services:

| service | in `nodesExt` | in `nodes` |
| --- | --- | --- |
| administration | `mgmt` | `hostname`: the host with the port |
| documents | `kv` | `ports`: the port under `direct` |
| views | `capi` | `couchApiBase`: a base of addresses with the host and the port |

A port may be given to any service, whether the node runs it or not. `nodesExt` lists a port only if the service runs,
`nodes` shows it in any case (`Node.lists_iff_runs_and_shows`). So the two lists agree about a service of a node if and
only if the node runs the service or has no port for it (`nodes_agree_iff`). As the nodes in question run the service
for documents, they always agree about that one. `nodes_disagree` is a node that shows a port for administration in one
list only.
-/

namespace MockCluster

theorem Service.configKey_injective {a b : Service} (h : a.configKey = b.configKey) : a = b := by
  cases a <;> cases b <;> first | rfl | exact absurd h (by decide)

/-- If no two fields have the same name, each of them is the one of its name. -/
theorem Json.field?_obj_eq_some_iff {fields : List (String × Json)} (distinct : (fields.map Prod.fst).Nodup)
    {key : String} {value : Json} : (Json.obj fields).field? key = some value ↔ (key, value) ∈ fields := by
  constructor
  · intro h
    obtain ⟨field, hf, rfl⟩ := Option.map_eq_some_iff.1 h
    obtain rfl : field.1 = key := by simpa using List.find?_some hf
    exact List.mem_of_find?_eq_some hf
  · intro h
    cases hf : fields.find? (·.1 = key) with
    | none => exact absurd (decide_eq_true rfl) (List.find?_eq_none.1 hf _ h)
    | some found =>
      have same : found.1 = key := by simpa using List.find?_some hf
      have only : found = (key, value) := List.inj_on_of_nodup_map distinct (List.mem_of_find?_eq_some hf) h same
      simp [Json.field?, hf, only]

/-- An entry of `nodesExt` lists a port for a service. -/
def Json.Lists (entry : Json) (service : Service) (port : UInt16) : Prop :=
  ∃ services, entry.field? "services" = some services ∧ services.field? service.configKey = some (.nat port.toNat)

/-- The services that are in `nodes`, each with its field and with what this holds for a host and a port. -/
inductive LegacyNode.Field (b : Bucket) : Service → String → (String → UInt16 → Json) → Prop
  | mgmt : Field b .mgmt "hostname" fun host port => .str (hostPort host port)
  | kv : Field b .kv "ports" fun _ port => .obj [("direct", .nat port.toNat)]
  | views : Field b .views "couchApiBase" fun host port => .str s!"http://{hostPort host port}/{b.name}%2B{b.uuid}"

/-- An entry of `nodes` shows a port of a service, with the host that the entry of `nodesExt` has. -/
def Json.Shows (legacy : Json) (b : Bucket) (entry : Json) (service : Service) (port : UInt16) : Prop :=
  ∃ key value host, LegacyNode.Field b service key value ∧ entry.field? "hostname" = some (.str host) ∧
    legacy.field? key = some (value host port)

/-- The two entries of a node agree about a service: whatever port one of them gives, the other one gives too. -/
def Json.AgreesAbout (legacy : Json) (b : Bucket) (entry : Json) (service : Service) : Prop :=
  ∀ port, legacy.Shows b entry service port ↔ entry.Lists service port

section Entries

variable {b : Bucket} {service : Service} {key : String} {value : String → UInt16 → Json}

theorem LegacyNode.Field.injective (field : LegacyNode.Field b service key value) (host : String) :
    Function.Injective (value host) := by
  intro p q h
  cases field with
  | mgmt => exact (hostPort_inj.1 (Json.str.inj h)).2
  | kv =>
    simp only [Json.obj.injEq, List.cons.injEq, Prod.mk.injEq, true_and, and_true, Json.nat, Json.num.injEq] at h
    exact UInt16.toNat_inj.1 (Int.ofNat_inj.1 h)
  | views =>
    have texts : toString (hostPort host p) = toString (hostPort host q) := by simpa using Json.str.inj h
    exact (hostPort_inj.1 texts).2

variable {requester node : Node} {entry legacy : Json} {port : UInt16}

theorem Node.ListedForBucket.field_eq (listed : requester.ListedForBucket b node legacy)
    (field : LegacyNode.Field b service key value) :
    legacy.field? key = do
      let address ← node.address? requester.network
      let port ← address.ports.get? service
      return value address.hostname port := by
  cases field with
  | mgmt => exact listed.hostname
  | kv => exact listed.ports
  | views => exact listed.couchApiBase

/-- On the network of the requester a node has a port for a service. -/
def Node.SeesPort (requester node : Node) (service : Service) (port : UInt16) : Prop :=
  ∃ address, node.address? requester.network = some address ∧ address.ports.get? service = some port

/-- In `nodes` it does not matter which services run. -/
theorem Node.shows_iff (listed : requester.Listed node entry) (older : requester.ListedForBucket b node legacy)
    (field : LegacyNode.Field b service key value) :
    legacy.Shows b entry service port ↔ requester.SeesPort node service port := by
  constructor
  · rintro ⟨key', value', host, field', hhost, hshown⟩
    rw [listed.hostname] at hhost
    obtain ⟨address, ha, hs⟩ := Option.map_eq_some_iff.1 hhost
    -- the host is the one of the address, so that only the port is left to compare
    obtain rfl := Json.str.inj hs
    rw [older.field_eq field', ha, Option.bind_eq_bind, Option.bind_some] at hshown
    obtain ⟨port', hp, he⟩ := Option.bind_eq_some_iff.1 hshown
    obtain rfl : port' = port := field'.injective address.hostname (Option.some.inj he)
    exact ⟨address, ha, hp⟩
  · rintro ⟨address, ha, hp⟩
    refine ⟨key, value, address.hostname, field, ?_, ?_⟩
    · rw [listed.hostname, ha]
      rfl
    · rw [older.field_eq field, ha]
      simp [hp]

/-- In `nodesExt` it does. -/
theorem Node.lists_iff (listed : requester.Listed node entry) :
    entry.Lists service port ↔ node.runs service = true ∧ requester.SeesPort node service port := by
  cases ha : node.address? requester.network with
  | none => simp [Json.Lists, Node.SeesPort, listed.unaddressed ha, ha]
  | some address =>
    obtain ⟨fields, hfields, distinct, members⟩ := listed.services address ha
    have listing : entry.Lists service port ↔ (service.configKey, Json.nat port.toNat) ∈ fields := by
      rw [← Json.field?_obj_eq_some_iff distinct]
      simp [Json.Lists, hfields]
    rw [listing, members]
    constructor
    · rintro ⟨service', port', runs, hp, hkey, hvalue⟩
      obtain rfl := Service.configKey_injective hkey
      obtain rfl : port = port' := UInt16.toNat_inj.1 (Int.ofNat_inj.1 (Json.num.inj hvalue))
      exact ⟨runs, address, ha, hp⟩
    · rintro ⟨runs, address', ha', hp⟩
      obtain rfl := Option.some.inj (ha.symm.trans ha')
      exact ⟨service, port, runs, hp, rfl, rfl⟩

/-- A port is listed if and only if it is shown and the service runs. -/
theorem Node.lists_iff_runs_and_shows (listed : requester.Listed node entry)
    (older : requester.ListedForBucket b node legacy) (field : LegacyNode.Field b service key value) :
    entry.Lists service port ↔ node.runs service = true ∧ legacy.Shows b entry service port := by
  rw [Node.lists_iff listed, Node.shows_iff listed older field]

/-- The entries agree about a service that runs, and about one without a port. -/
theorem Node.agreesAbout_iff (listed : requester.Listed node entry) (older : requester.ListedForBucket b node legacy)
    (field : LegacyNode.Field b service key value) :
    legacy.AgreesAbout b entry service ↔ node.runs service = true ∨ ∀ port, ¬requester.SeesPort node service port := by
  simp only [Json.AgreesAbout, Node.lists_iff_runs_and_shows listed older field, iff_and_self]
  constructor
  · intro agrees
    by_cases has : ∃ port, requester.SeesPort node service port
    · obtain ⟨port, hp⟩ := has
      exact .inl (agrees port ((Node.shows_iff listed older field).2 hp))
    · exact .inr fun port hp => has ⟨port, hp⟩
  · rintro (runs | none) port shows
    · exact runs
    · exact absurd ((Node.shows_iff listed older field).1 shows) (none port)

end Entries

namespace Topology

variable {t : Topology} {b : Bucket} {name : String} {requester : Node}

/-- **When the two lists of nodes agree.** Whatever was done to a cluster, any of its nodes answers about any of its
buckets with a document that has two entries for each node that holds documents. They agree about the port for
documents. About the ports for administration and for views they agree if and only if the node runs the service or has
no such port on the requester's network; what `nodesExt` lists is shown in `nodes` in any case. -/
theorem nodes_agree_iff {ms : List Mutation} {past : List Topology} (h : History ms (t :: past))
    (hb : t.bucket? name = some b) (hr : requester ∈ t.nodes) :
    ∃ doc cluster entries older, t.Answers name requester doc cluster ∧
      doc.field? "nodesExt" = some (.arr entries) ∧ doc.field? "nodes" = some (.arr older) ∧
      ∀ (i : Nat) (node : Node), t.kvNodes[i]? = some node →
        ∃ (j : Nat) (entry legacy : Json),
          t.nodes[j]? = some node ∧ entries[j]? = some entry ∧ older[i]? = some legacy ∧
          legacy.AgreesAbout b entry .kv ∧
          ∀ service ∈ [.mgmt, .views],
            (∀ port, entry.Lists service port → legacy.Shows b entry service port) ∧
            (legacy.AgreesAbout b entry service ↔
              node.runs service = true ∨ ∀ port, ¬requester.SeesPort node service port) := by
  have balanced : t.Balanced := h.balanced t List.mem_cons_self
  obtain ⟨places, found⟩ := balanced.exists_documentOf hb
  refine ⟨_, _, _, _, answers_of_documents (found requester hr) (balanced.clusterDocument_eq hr), rfl, rfl,
    fun i node hi => ?_⟩
  obtain ⟨hn, runs⟩ := List.mem_filter.1 (List.mem_of_getElem? hi)
  obtain ⟨j, hj⟩ := List.getElem?_of_mem hn
  have listed := Node.listed_ofNode requester node
  have older := Node.listedForBucket_ofNode requester node b
  refine ⟨j, (NodeEntry.ofNode requester.id requester.network node).toJson,
    (LegacyNode.ofNode b requester.network node).toJson, hj, ?_, ?_, ?_, ?_⟩
  · simp [documentOf, nodeEntries, hj]
  · simp [documentOf, hi]
  · exact (Node.agreesAbout_iff listed older .kv).2 (.inl runs)
  · simp only [List.forall_mem_cons, List.not_mem_nil, false_implies, implies_true, and_true]
    refine ⟨⟨fun port h => ?_, Node.agreesAbout_iff listed older .mgmt⟩,
      ⟨fun port h => ?_, Node.agreesAbout_iff listed older .views⟩⟩
    · exact ((Node.lists_iff_runs_and_shows listed older .mgmt).1 h).2
    · exact ((Node.lists_iff_runs_and_shows listed older .views).1 h).2

/-- The second node, which is the first one that holds documents, runs the service for views too. From outside it has
ports for these, and one for an administration that it does not run. -/
theorem nodes_agree_iff_outside :
    let ports : PortMap := ((PortMap.empty.insert .kv 31210).insert .views 38092).insert .mgmt 38091
    let t := mutateAll
      [.addNode "a" [.query], .addNode "b" [.kv, .views], .setAlternate 1 "external" ⟨"::1", ports⟩,
        .setNetwork 1 (.alternate "external"), .addBucket ⟨"x", 0, 1, none⟩] initial
    ∃ (requester : Node) (b : Bucket) (doc cluster entry legacy : Json),
      t.nodes[1]? = some requester ∧ t.bucket? "x" = some b ∧ t.Answers "x" requester doc cluster ∧
      (∀ port, entry.Lists .mgmt port → legacy.Shows b entry .mgmt port) ∧
      legacy.AgreesAbout b entry .kv ∧ legacy.AgreesAbout b entry .views ∧ ¬legacy.AgreesAbout b entry .mgmt := by
  intro ports t
  have history : History _ _ :=
    .mutate (.mutate (.mutate (.mutate (.mutate .start
      (.addNode "a" [.query]) nofun) (.addNode "b" [.kv, .views]) nofun)
      (.setAlternate 1 "external" ⟨"::1", ports⟩) nofun) (.setNetwork 1 (.alternate "external")) nofun)
      (.addBucket ⟨"x", 0, 1, none⟩) nofun
  have hr : t.nodes[1] ∈ t.nodes := List.getElem_mem _
  have hb : t.bucket? "x" = some ((t.bucket? "x").get (by decide)) := (Option.some_get _).symm
  obtain ⟨doc, cluster, entries, older, answers, -, -, each⟩ := nodes_agree_iff history hb hr
  obtain ⟨j, entry, legacy, -, -, -, kv, rest⟩ := each 0 t.nodes[1] rfl
  obtain ⟨shown, mgmt⟩ := rest .mgmt (by decide)
  obtain ⟨-, views⟩ := rest .views (by decide)
  refine ⟨_, _, doc, cluster, entry, legacy, rfl, hb, answers, shown, kv, views.2 (.inl (by decide)), fun agrees => ?_⟩
  obtain runs | none := mgmt.1 agrees
  · exact absurd runs (by decide)
  · exact none 38091 ⟨_, rfl, rfl⟩

/-- A node runs the service for documents only, and is given a port for administration. Nobody listens there, and
`nodesExt` says nothing of it, but `nodes` does. -/
theorem nodes_disagree :
    let t := mutateAll
      [.addNode "a" [.kv], .setPort 0 .kv 11210, .setPort 0 .mgmt 8091, .addBucket ⟨"x", 0, 1, none⟩] initial
    ∃ ms past, ∃ (doc entry legacy : Json) (b : Bucket), History ms (t :: past) ∧ t.bucket? "x" = some b ∧
      (t.bucketDocument "x" 0).map BucketDocument.toJson = .ok doc ∧
      doc.field? "nodesExt" = some (.arr [entry]) ∧ doc.field? "nodes" = some (.arr [legacy]) ∧
      entry.field? "services" = some (.obj [("kv", .nat 11210)]) ∧
      legacy.field? "hostname" = some (.str "a:8091") ∧
      legacy.AgreesAbout b entry .kv ∧ ¬legacy.AgreesAbout b entry .mgmt := by
  intro t
  have history : History _ _ :=
    .mutate (.mutate (.mutate (.mutate .start (.addNode "a" [.kv]) nofun) (.setPort 0 .kv 11210) nofun)
      (.setPort 0 .mgmt 8091) nofun) (.addBucket ⟨"x", 0, 1, none⟩) nofun
  have listed := Node.listed_ofNode t.nodes[0] t.nodes[0]
  have older := Node.listedForBucket_ofNode t.nodes[0] t.nodes[0] ((t.bucket? "x").get (by decide))
  refine ⟨_, _, _, _, _, (t.bucket? "x").get (by decide), history, (Option.some_get _).symm, rfl, rfl, rfl, rfl, rfl,
    (Node.agreesAbout_iff listed older .kv).2 (.inl (by decide)), fun agrees => ?_⟩
  obtain runs | none := (Node.agreesAbout_iff listed older .mgmt).1 agrees
  · exact absurd runs (by decide)
  · exact none 8091 ⟨_, rfl, rfl⟩

end Topology

end MockCluster
