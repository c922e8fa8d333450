import MockCluster.Proofs.Deployment.Documents
import MockCluster.Proofs.Deployment.Lifecycle

/-!
# Pinned ports

Settings may pin the ports of both kinds of listeners. Then the ports of a node are its place counted from one base for
documents and from another one for administration. Validation looks at each base by itself: the first port is not zero,
and the last one is still a port (`Settings.Valid.pinned`). So whoever counts from the base in 16 bits never leaves them,
and no two nodes get one port from the same base (`Settings.counted_ports`).

Validation does not compare the bases, so there are valid settings under which two listeners ask for one port, and then
the deployment can never be started (`pinned_ports_shared`). When this happens depends on both bases and on which nodes
run which services (`pinned_ports_distinct_iff`).
-/

namespace MockCluster

/-- The service whose listeners a port setting is for. -/
def PortBase.service : PortBase → Service
  | kv => .kv
  | http => .mgmt

theorem NodeSettings.node_of_mem_openings {n : NodeSettings} {l : ListenerSettings} {index : Nat} {node : NodeId}
    {o : Opening} (ho : o ∈ n.openings l index node) : o.node = node := by
  rcases mem_openings_iff.1 ho with ⟨-, rfl⟩ | ⟨-, rfl⟩ <;> rfl

namespace Settings

variable {s : Settings} {k h : Nat}

/-- No port for documents is one for administration. Nodes count only so far as they run the service. -/
def RangesApart (s : Settings) (k h : Nat) : Prop :=
  ∀ i j n m, s.nodes[i]? = some n → Service.kv ∈ n.services → s.nodes[j]? = some m → Service.mgmt ∈ m.services →
    k + i ≠ h + j

/-- With valid settings every node has a port to count to, and none is zero. -/
theorem Valid.pinned (valid : s.Valid) (kv : s.listeners.kvPortBase = some k)
    (mgmt : s.listeners.httpPortBase = some h) :
    (0 < k ∧ k + s.nodes.length ≤ 65536) ∧ 0 < h ∧ h + s.nodes.length ≤ 65536 := by
  obtain ⟨-, ports⟩ := listenersFault?_eq_none_iff.1 valid.listeners
  exact ⟨ports .kv k kv, ports .http h mgmt⟩

theorem toNat_portAt {base index : Nat} (fits : base + index < 65536) :
    (Deployment.portAt (some base) index).toNat = base + index :=
  UInt16.toNat_ofNat_of_lt' fits

theorem portAt_eq_portAt_iff {base base' i j : Nat} (hi : base + i < 65536) (hj : base' + j < 65536) :
    Deployment.portAt (some base) i = Deployment.portAt (some base') j ↔ base + i = base' + j := by
  rw [← UInt16.toNat_inj, toNat_portAt hi, toNat_portAt hj]

theorem nodup_server_openings (s : Settings) : (s.openings.map Opening.server).Nodup := by
  have go (index : Nat) {nodes : List (NodeId × NodeSettings)} (distinct : (nodes.map (·.1)).Nodup) :
      ((s.listeners.openings index nodes).map Opening.server).Nodup := by
    induction nodes generalizing index with
    | nil => exact List.nodup_nil
    | cons entry rest ih =>
      obtain ⟨node, n⟩ := entry
      obtain ⟨new, distinct⟩ := List.nodup_cons.1 distinct
      rw [ListenerSettings.openings, List.map_append, List.nodup_append]
      refine ⟨?_, ih (index + 1) distinct, ?_⟩
      · rw [NodeSettings.openings]
        split <;> split <;> simp [Opening.server]
      · rintro _ here _ there rfl
        obtain ⟨o, ho, same⟩ := List.mem_map.1 here
        obtain ⟨o', ho', same'⟩ := List.mem_map.1 there
        obtain ⟨i, node', n', found, ho'⟩ := ListenerSettings.mem_openings_iff.1 ho'
        have one : node' = node := by
          rw [← NodeSettings.node_of_mem_openings ho, ← NodeSettings.node_of_mem_openings ho']
          exact congrArg Prod.fst (same'.trans same.symm)
        exact new (List.mem_map.2 ⟨_, List.mem_of_getElem? found, one⟩)
  refine go 0 ?_
  rw [List.map_fst_zip (Nat.le_of_eq List.length_range)]
  exact List.nodup_range

theorem Valid.port_ne_zero (valid : s.Valid) (kv : s.listeners.kvPortBase = some k)
    (mgmt : s.listeners.httpPortBase = some h) : ∀ o ∈ s.openings, o.port ≠ 0 := by
  obtain ⟨⟨kvPos, kvRoom⟩, mgmtPos, mgmtRoom⟩ := valid.pinned kv mgmt
  have positive {base i : Nat} (pos : 0 < base) (room : base + i < 65536) : Deployment.portAt (some base) i ≠ 0 := by
    rw [Ne, ← UInt16.toNat_inj, toNat_portAt room]
    exact Nat.ne_of_gt (Nat.add_pos_left pos i)
  intro o ho
  obtain ⟨id, n, found, runs⟩ := mem_openings_iff.1 ho
  have room : id < s.nodes.length := (List.getElem?_eq_some_iff.1 found).1
  rw [kv, mgmt] at runs
  rcases runs with ⟨-, rfl⟩ | ⟨-, rfl⟩
  · exact positive kvPos (Nat.lt_of_lt_of_le (Nat.add_lt_add_left room k) kvRoom)
  · exact positive mgmtPos (Nat.lt_of_lt_of_le (Nat.add_lt_add_left room h) mgmtRoom)

theorem isSome_node?_topology {id : NodeId} (hi : id < s.nodes.length) : (s.topology.node? id).isSome := by
  have listed : id ∈ s.topology.nodes.map (·.id) := by
    rw [ids_topology]
    exact List.mem_range.2 hi
  obtain ⟨node, hn, rfl⟩ := List.mem_map.1 listed
  exact List.find?_isSome.2 ⟨node, hn, by simp⟩

theorem nodup_port_openings_iff (valid : s.Valid) (kv : s.listeners.kvPortBase = some k)
    (mgmt : s.listeners.httpPortBase = some h) : (s.openings.map (·.port)).Nodup ↔ s.RangesApart k h := by
  obtain ⟨⟨-, kvRoom⟩, -, mgmtRoom⟩ := valid.pinned kv mgmt
  have room {id : Nat} {n : NodeSettings} (found : s.nodes[id]? = some n) : id < s.nodes.length :=
    (List.getElem?_eq_some_iff.1 found).1
  rw [List.nodup_map_iff_inj_on s.nodup_server_openings.of_map]
  simp only [mem_openings_iff, kv, mgmt]
  constructor
  · intro inj i j n m hn runsKv hm runsMgmt same
    have one := inj _ ⟨i, n, hn, .inl ⟨runsKv, rfl⟩⟩ _ ⟨j, m, hm, .inr ⟨runsMgmt, rfl⟩⟩
      ((portAt_eq_portAt_iff (by have := room hn; omega) (by have := room hm; omega)).2 same)
    cases congrArg Opening.service one
  · rintro apart _ ⟨i, n, hn, runs⟩ _ ⟨j, m, hm, runs'⟩ same
    have hi := room hn
    have hj := room hm
    rcases runs with ⟨runs, rfl⟩ | ⟨runs, rfl⟩ <;> rcases runs' with ⟨runs', rfl⟩ | ⟨runs', rfl⟩
    all_goals rw [portAt_eq_portAt_iff (by omega) (by omega)] at same
    · obtain rfl : i = j := Nat.add_left_cancel same
      rfl
    · exact absurd same (apart i j n m hn runs hm runs')
    · exact absurd same.symm (apart j i m n hm runs' hn runs)
    · obtain rfl : i = j := Nat.add_left_cancel same
      rfl

/-- The port for the node at a place, counted in 16 bits from that of the first node. The place is cut to 16 bits, and a
sum that does not fit is no port. -/
def countedPort? (base : UInt16) (index : Nat) : Option UInt16 :=
  if base.toNat + (UInt16.ofNat index).toNat < 65536 then some (base + UInt16.ofNat index) else none

theorem countedPort?_eq_portAt {base index : Nat} (fits : base + index < 65536) :
    countedPort? (UInt16.ofNat base) index = some (Deployment.portAt (some base) index) := by
  have first : (UInt16.ofNat base).toNat = base := UInt16.toNat_ofNat_of_lt' (Nat.lt_of_le_of_lt (base.le_add_right _) fits)
  have place : (UInt16.ofNat index).toNat = index :=
    UInt16.toNat_ofNat_of_lt' (Nat.lt_of_le_of_lt (index.le_add_left _) fits)
  rw [countedPort?, first, place, if_pos fits]
  exact congrArg some (UInt16.ofNat_add base index).symm

/-- **Ports counted from a base.** With valid settings of fewer than 2^31 nodes, the check for room passes in 32 bits as
well. Then the place of every node fits into 16 bits, and so does its sum with the base. The sum is a port that no other
node gets from this base, and it is the port that the listener of the node asks for. -/
theorem counted_ports (valid : s.validate = .ok ()) (few : s.nodes.length < 2 ^ 31) {setting : PortBase} {base : Nat}
    (given : s.listeners.portBase? setting = some base) :
    (∃ word : UInt16, word.toNat = base ∧ setting.wordFault? (UInt32.ofNat s.nodes.length) word = none ∧
      ∀ i < s.nodes.length, (UInt16.ofNat i).toNat = i ∧ countedPort? word i = some (Deployment.portAt (some base) i)) ∧
    (∀ i < s.nodes.length, (Deployment.portAt (some base) i).toNat = base + i ∧ 1 ≤ base + i ∧ base + i ≤ 65535) ∧
    (∀ i < s.nodes.length, ∀ j < s.nodes.length,
      Deployment.portAt (some base) i = Deployment.portAt (some base) j → i = j) ∧
    ∀ o ∈ s.openings, o.service = setting.service →
      o.node < s.nodes.length ∧ o.port = Deployment.portAt (some base) o.node := by
  have valid' := validate_eq_ok_iff.1 valid
  obtain ⟨-, ports⟩ := listenersFault?_eq_none_iff.1 valid'.listeners
  obtain ⟨positive, room⟩ := ports setting base given
  have filled : 0 < s.nodes.length := by
    obtain ⟨n, hn, -⟩ := valid'.holder
    exact List.length_pos_of_mem hn
  have fits {i : Nat} (hi : i < s.nodes.length) : base + i < 65536 := by omega
  have word : (UInt16.ofNat base).toNat = base := UInt16.toNat_ofNat_of_lt' (fits filled)
  refine ⟨⟨UInt16.ofNat base, word, ?_, fun i hi => ⟨?_, countedPort?_eq_portAt (fits hi)⟩⟩, fun i hi => ?_,
    fun i hi j hj same => ?_, fun o ho runs => ?_⟩
  · rw [PortBase.wordFault?_eq few, word, PortBase.fault?_eq_none_iff]
    rintro _ ⟨rfl⟩
    exact ⟨positive, room⟩
  · exact UInt16.toNat_ofNat_of_lt' (Nat.lt_of_le_of_lt (Nat.le_add_left i base) (fits hi))
  · have last := fits hi
    exact ⟨toNat_portAt last, Nat.le_add_right_of_le positive, Nat.le_of_lt_succ last⟩
  · exact Nat.add_left_cancel ((portAt_eq_portAt_iff (fits hi) (fits hj)).1 same)
  · obtain ⟨id, n, found, planned⟩ := mem_openings_iff.1 ho
    have place : id < s.nodes.length := (List.getElem?_eq_some_iff.1 found).1
    rcases planned with ⟨-, rfl⟩ | ⟨-, rfl⟩ <;> cases setting
    · exact ⟨place, congrArg (Deployment.portAt · id) given⟩
    · cases runs
    · cases runs
    · exact ⟨place, congrArg (Deployment.portAt · id) given⟩

/-- The last of three nodes has the last port. -/
theorem counted_ports_last :
    let s : Settings := { Settings.standard with listeners := ⟨"127.0.0.1", some 65533, none⟩ }
    s.validate = .ok () ∧ s.nodes.length < 2 ^ 31 ∧ s.listeners.portBase? .kv = some 65533 ∧
      (∀ i < 3, (Deployment.portAt (some 65533) i).toNat = 65533 + i) ∧
      ∀ o ∈ s.openings, o.service = .kv → o.port = Deployment.portAt (some 65533) o.node := by
  intro s
  have valid : s.validate = .ok () := by decide +kernel
  have few : s.nodes.length < 2 ^ 31 := by decide
  have given : s.listeners.portBase? .kv = some 65533 := rfl
  obtain ⟨-, ports, -, openings⟩ := counted_ports valid few given
  exact ⟨valid, few, given, fun i hi => (ports i hi).1, fun o ho runs => (openings o ho runs).2⟩

end Settings

namespace Deployment

variable {K R M : Type} {s : Settings} {k h : Nat}

/-- Requests for certain ports at one address. -/
theorem nodup_request_openings_iff (address : IpAddress) :
    (s.openings.map (·.request address)).Nodup ↔ (s.openings.map (·.port)).Nodup := by
  have requests : s.openings.map (·.request address) =
      (s.openings.map (·.port)).map fun port => ({ address, port } : Endpoint) := by
    rw [List.map_map]
    rfl
  rw [requests]
  exact List.nodup_map_iff fun port port' same => congrArg Endpoint.port same

/-- **When pinned ports are distinct.** Valid settings with both bases give every listener a port of its own if and only
if no port for documents is one for administration. If not, the deployment cannot be started even on a host where nobody
else has these ports. -/
theorem pinned_ports_distinct_iff (service : Kv.Builtin → K) (route : Http.Builtin → R) (memory : M)
    (valid : s.validate = .ok ()) (kv : s.listeners.kvPortBase = some k) (mgmt : s.listeners.httpPortBase = some h) :
    ((s.openings.map (·.port)).Nodup ↔ s.RangesApart k h) ∧
    ∃ d : Deployment K R M, create service route memory s = .ok d ∧
      ∀ host : Host, host.grant = Host.grantFree → (∀ e ∈ host.held, ∀ o ∈ s.openings, e.port ≠ o.port) →
        ((d.start host).1 = .ok () ↔ s.RangesApart k h) := by
  have valid' := Settings.validate_eq_ok_iff.1 valid
  have distinct := Settings.nodup_port_openings_iff valid' kv mgmt
  obtain ⟨d, created, settings, nodes, topology⟩ := exists_create service route memory valid
  obtain ⟨made, stopped⟩ := madeOf_create created
  obtain ⟨address, bound⟩ := valid'.exists_bindAddress
  refine ⟨distinct, d, created, fun host free others => ?_⟩
  have pinned : ∀ request ∈ s.openings.map (·.request address), request.port ≠ 0 := by
    intro request hr
    obtain ⟨o, ho, rfl⟩ := List.mem_map.1 hr
    exact valid'.port_ne_zero kv mgmt o ho
  have apart : ∀ request ∈ s.openings.map (·.request address), request ∉ host.held := by
    intro request hr taken
    obtain ⟨o, ho, rfl⟩ := List.mem_map.1 hr
    exact others _ taken o ho rfl
  have there : ∀ o ∈ s.openings, (d.shared.topology.node? o.node).isSome := by
    intro o ho
    obtain ⟨id, n, found, ⟨-, rfl⟩ | ⟨-, rfl⟩⟩ := Settings.mem_openings_iff.1 ho
    all_goals
      rw [topology]
      exact Settings.isSome_node?_topology (List.getElem?_eq_some_iff.1 found).1
  rw [made.start_ok_iff stopped bound, Host.exists_takeAll_grantFree_iff free pinned, nodup_request_openings_iff,
    distinct]
  exact ⟨fun started => started.1.1, fun ranges => ⟨⟨ranges, apart⟩, there⟩⟩

/-- The bases are next to each other; only the first node holds documents, and only the second one is administered. -/
theorem pinned_ports_distinct_iff_apart :
    let s : Settings := { Settings.standard with
      listeners := ⟨"127.0.0.1", some 9000, some 9001⟩
      nodes := [⟨"a", [.kv], "default", .empty⟩, ⟨"b", [.mgmt], "default", .empty⟩] }
    (s.openings.map (·.port)).Nodup ∧ ∃ d : Deployment Unit Unit Unit,
      create (fun _ => ()) (fun _ => ()) () s = .ok d ∧ (d.start (.idle true)).1 = .ok () := by
  intro s
  have valid : s.validate = .ok () := by decide +kernel
  obtain ⟨distinct, d, created, start⟩ :=
    pinned_ports_distinct_iff (M := Unit) (fun _ => ()) (fun _ => ()) () valid rfl rfl
  have nodup : (s.openings.map (·.port)).Nodup := by decide +kernel
  exact ⟨nodup, d, created, (start _ rfl (by simp [Host.idle])).2 (distinct.1 nodup)⟩

/-- **Valid settings under which two listeners ask for one port.** Both bases are the same, and one node runs both
services. The deployment is made, but its start fails on a host of its own. -/
theorem pinned_ports_shared :
    let s : Settings := { Settings.standard with
      listeners := ⟨"127.0.0.1", some 23921, some 23921⟩
      nodes := [.standard] }
    s.validate = .ok () ∧ s.openings = [⟨0, .kv, 23921⟩, ⟨0, .mgmt, 23921⟩] ∧
      ∃ d : Deployment Unit Unit Unit, create (fun _ => ()) (fun _ => ()) () s = .ok d ∧
        (d.start (.idle true)).1 ≠ .ok () := by
  intro s
  have valid : s.validate = .ok () := by decide +kernel
  have openings : s.openings = [⟨0, .kv, 23921⟩, ⟨0, .mgmt, 23921⟩] := by decide +kernel
  obtain ⟨d, created, -⟩ := exists_create (M := Unit) (fun _ => ()) (fun _ => ()) () valid
  obtain ⟨made, stopped⟩ := madeOf_create created
  obtain ⟨address, bound⟩ := made.valid.exists_bindAddress
  refine ⟨valid, openings, d, created, ?_⟩
  rw [Ne, made.start_ok_iff stopped bound, openings, Host.exists_takeAll_grantFree_iff rfl (by simp [Opening.request])]
  simp [Opening.request]

end Deployment

end MockCluster
