import Mathlib.Algebra.Group.Nat.Defs
import Mathlib.Data.List.Induction
import Mathlib.Data.List.Nodup
import MockCluster.Settings.Validity

/-!
# What valid settings are

Validation looks for the first fault and stops there. Seen as a whole, it accepts settings if and only if each part of
them is free of faults (`Settings.validate_eq_ok_iff`), which for nodes and buckets is said here without any order of
checks (`NodeSettings.Valid`, `BucketSettings.Valid`). `validate_iff_conditions` says the same of the listeners and puts
all conditions together.

The room for the ports of all nodes is a sum of the first port and the number of nodes. Numbers of 32 bits are enough
for that sum as long as there are fewer than 2^31 nodes (`PortBase.wordFault?_eq`).
-/

namespace MockCluster

theorem Service.ofName?_eq_some_iff {name : String} {service : Service} :
    Service.ofName? name = some service ↔ service.name = name := by
  constructor
  · intro h
    simpa using List.find?_some h
  · rintro rfl
    exact Service.ofName?_name service

/-- A node that can be part of a cluster. -/
structure NodeSettings.Valid (n : NodeSettings) : Prop where
  hostname : n.hostname ≠ ""
  /-- All ports are for services. -/
  ports : ∀ a ∈ n.alternates.values, ∀ name ∈ a.ports.names, ∃ service : Service, service.name = name
  /-- On the network that it advertises, the node has an address. -/
  network : n.network = "default" ∨ n.alternates.contains n.network = true

/-- A bucket that can be spread over a cluster. -/
structure BucketSettings.Valid (b : BucketSettings) : Prop where
  name : b.name ≠ ""
  vbuckets : 0 < b.vbuckets
  replicas : b.replicas ≤ 3

/-- Settings from which a deployment can be made. -/
structure Settings.Valid (s : Settings) : Prop where
  listeners : s.listenersFault? = none
  logLevel : s.logLevel ∈ logLevels
  /-- Some node holds documents. -/
  holder : ∃ n ∈ s.nodes, Service.kv ∈ n.services
  nodes : ∀ n ∈ s.nodes, n.Valid
  buckets : ∀ b ∈ s.buckets, b.Valid
  distinct : (s.buckets.map (·.name)).Nodup

theorem NodeSettings.valid_iff {n : NodeSettings} : n.Valid ↔ n.hostname ≠ "" ∧
    (∀ a ∈ n.alternates.values, ∀ name ∈ a.ports.names, ∃ service : Service, service.name = name) ∧
    (n.network = "default" ∨ n.network ∈ n.alternates.names) := by
  rw [← NameMap.contains_iff_mem_names]
  exact ⟨fun ⟨hostname, ports, network⟩ => ⟨hostname, ports, network⟩,
    fun ⟨hostname, ports, network⟩ => ⟨hostname, ports, network⟩⟩

theorem BucketSettings.valid_iff {b : BucketSettings} : b.Valid ↔ b.name ≠ "" ∧ 1 ≤ b.vbuckets ∧ b.replicas ≤ 3 :=
  ⟨fun ⟨name, vbuckets, replicas⟩ => ⟨name, vbuckets, replicas⟩,
    fun ⟨name, vbuckets, replicas⟩ => ⟨name, vbuckets, replicas⟩⟩

theorem AlternateSettings.unknownService?_eq_none_iff {a : AlternateSettings} :
    a.unknownService? = none ↔ ∀ name ∈ a.ports.names, ∃ service : Service, service.name = name := by
  simp only [unknownService?, List.find?_eq_none, Option.isNone_iff_eq_none]
  refine forall₂_congr fun name _ => ?_
  rw [← Ne, Option.ne_none_iff_exists']
  exact exists_congr fun service => Service.ofName?_eq_some_iff

theorem NodeSettings.fault?_eq_none_iff {n : NodeSettings} {index : Nat} : n.fault? index = none ↔ n.Valid := by
  have ports : n.alternates.values.findSome? (·.unknownService?) = none ↔
      ∀ a ∈ n.alternates.values, ∀ name ∈ a.ports.names, ∃ service : Service, service.name = name := by
    simp only [List.findSome?_eq_none_iff, AlternateSettings.unknownService?_eq_none_iff]
  have network : ¬(n.network ≠ "default" ∧ (!n.alternates.contains n.network) = true) ↔
      n.network = "default" ∨ n.alternates.contains n.network = true := by
    cases n.alternates.contains n.network <;> simp
  unfold fault?
  constructor
  · intro h
    split at h
    · cases h
    · rename_i hostname
      split at h
      · cases h
      · rename_i known
        split at h
        · cases h
        · rename_i matched
          exact ⟨hostname, ports.1 known, network.1 matched⟩
  · intro valid
    rw [if_neg valid.hostname, ports.2 valid.ports]
    exact if_neg (network.2 valid.network)

theorem BucketSettings.fault?_eq_none_iff {b : BucketSettings} {earlier : List String} :
    b.fault? earlier = none ↔ b.Valid ∧ b.name ∉ earlier := by
  unfold fault?
  constructor
  · intro h
    split_ifs at h with name taken vbuckets replicas
    exact ⟨⟨name, Nat.pos_of_ne_zero vbuckets, Nat.le_of_not_lt replicas⟩, taken⟩
  · rintro ⟨⟨name, vbuckets, replicas⟩, taken⟩
    rw [if_neg name, if_neg taken, if_neg (Nat.ne_of_gt vbuckets), if_neg (Nat.not_lt_of_le replicas)]

section Ports

/-- The port of the first node, if it is set. -/
def ListenerSettings.portBase? (l : ListenerSettings) : PortBase → Option Nat
  | .kv => l.kvPortBase
  | .http => l.httpPortBase

/-- The fault in a port setting of 16 bits, with the number of nodes and the sum in 32 bits. -/
def PortBase.wordFault? (setting : PortBase) (nodes : UInt32) (base : UInt16) : Option SettingsFault :=
  if base = 0 then some (.zeroPortBase setting)
  else if 65536 < base.toUInt32 + nodes then some (.noRoom setting base.toNat nodes.toNat)
  else none

namespace PortBase

variable {setting : PortBase} {nodes : Nat}

/-- No node has port zero, and there is a port for the last one. -/
theorem fault?_eq_none_iff {base : Option Nat} :
    setting.fault? nodes base = none ↔ ∀ b ∈ base, 1 ≤ b ∧ b + nodes ≤ 65536 := by
  cases base with
  | none => simp [fault?]
  | some base =>
    simp only [fault?, Option.mem_some_iff, forall_eq']
    constructor
    · intro h
      split_ifs at h with zero full
      exact ⟨Nat.one_le_iff_ne_zero.2 zero, Nat.le_of_not_lt full⟩
    · rintro ⟨positive, room⟩
      rw [if_neg (Nat.one_le_iff_ne_zero.1 positive), if_neg (Nat.not_lt_of_le room)]

/-- **The sum of a port and a number of nodes does not overflow.** -/
theorem wordFault?_eq (few : nodes < 2 ^ 31) (base : UInt16) :
    setting.wordFault? (UInt32.ofNat nodes) base = setting.fault? nodes (some base.toNat) := by
  have count : (UInt32.ofNat nodes).toNat = nodes := UInt32.toNat_ofNat_of_lt' (Nat.lt_trans few (by decide))
  have sum : (base.toUInt32 + UInt32.ofNat nodes).toNat = base.toNat + nodes := by
    have := base.toNat_lt
    rw [UInt32.toNat_add, UInt16.toNat_toUInt32, count]
    exact Nat.mod_eq_of_lt (by omega)
  have zero : base = 0 ↔ base.toNat = 0 := UInt16.toNat_inj.symm
  have full : 65536 < base.toUInt32 + UInt32.ofNat nodes ↔ 65536 < base.toNat + nodes := by
    rw [UInt32.lt_iff_toNat_lt, sum]
    rfl
  simp only [wordFault?, fault?, zero, full, count]

end PortBase

end Ports

/-- No two elements have one image if none has that of one before it. -/
theorem nodup_map_iff_not_mem_take {α β : Type} {f : α → β} {l : List α} :
    (l.map f).Nodup ↔ ∀ (index : Nat) (x : α), l[index]? = some x → f x ∉ (l.take index).map f := by
  induction l using List.reverseRecOn with
  | nil => simp
  | append_singleton l y ih =>
    rw [List.map_append, List.map_singleton, List.nodup_append_comm, List.singleton_append, List.nodup_cons, ih]
    constructor
    · rintro ⟨new, before⟩ index x hx
      obtain hi | rfl | hi := Nat.lt_trichotomy index l.length
      · rw [List.getElem?_append_left hi] at hx
        rw [List.take_append_of_le_length (Nat.le_of_lt hi)]
        exact before index x hx
      · obtain rfl : y = x := by simpa using hx
        simpa using new
      · have outside : (l ++ [y]).length ≤ index := by
          rw [List.length_append]
          exact hi
        rw [List.getElem?_eq_none outside] at hx
        cases hx
    · intro h
      refine ⟨by simpa using h l.length y (by simp), fun index x hx => ?_⟩
      have hi : index < l.length := (List.getElem?_eq_some_iff.1 hx).1
      have := h index x (by rw [List.getElem?_append_left hi, hx])
      rwa [List.take_append_of_le_length (Nat.le_of_lt hi)] at this

namespace Settings

variable {s : Settings}

theorem listenersFault?_eq_none_iff : s.listenersFault? = none ↔
    (∃ address, IpAddress.ofString? s.listeners.bind = some address) ∧
      ∀ setting, ∀ b ∈ s.listeners.portBase? setting, 1 ≤ b ∧ b + s.nodes.length ≤ 65536 := by
  have bases : (∀ setting, ∀ b ∈ s.listeners.portBase? setting, 1 ≤ b ∧ b + s.nodes.length ≤ 65536) ↔
      PortBase.kv.fault? s.nodes.length s.listeners.kvPortBase = none ∧
        PortBase.http.fault? s.nodes.length s.listeners.httpPortBase = none := by
    rw [PortBase.fault?_eq_none_iff, PortBase.fault?_eq_none_iff]
    constructor
    · exact fun h => ⟨h .kv, h .http⟩
    · rintro ⟨kv, http⟩ (_ | _)
      · exact kv
      · exact http
  rw [bases, listenersFault?, bindAddress]
  cases IpAddress.ofString? s.listeners.bind <;> simp

theorem nodesFault?_eq_none_iff :
    s.nodesFault? = none ↔ (∃ n ∈ s.nodes, Service.kv ∈ n.services) ∧ ∀ n ∈ s.nodes, n.Valid := by
  have holder : (!s.nodes.any fun n => n.services.contains .kv) = true ↔ ¬∃ n ∈ s.nodes, Service.kv ∈ n.services := by
    simp
  have faults : (s.nodes.zipIdx.findSome? fun entry => entry.1.fault? entry.2) = none ↔ ∀ n ∈ s.nodes, n.Valid := by
    rw [List.findSome?_eq_none_iff]
    constructor
    · intro h n hn
      obtain ⟨index, hi⟩ := List.getElem?_of_mem hn
      exact NodeSettings.fault?_eq_none_iff.1 (h (n, index) (List.mk_mem_zipIdx_iff_getElem?.2 hi))
    · rintro h ⟨n, index⟩ hn
      exact NodeSettings.fault?_eq_none_iff.2 (h n (List.fst_mem_of_mem_zipIdx hn))
  unfold nodesFault?
  constructor
  · intro h
    split_ifs at h with _ none
    exact ⟨Classical.not_not.1 (mt holder.2 none), faults.1 h⟩
  · rintro ⟨some, valid⟩
    have nodes : ¬s.nodes.isEmpty = true := by
      obtain ⟨n, hn, -⟩ := some
      rw [List.isEmpty_iff]
      exact List.ne_nil_of_mem hn
    rw [if_neg nodes, if_neg (mt holder.1 (not_not_intro some))]
    exact faults.2 valid

theorem bucketsFault?_eq_none_iff :
    s.bucketsFault? = none ↔ (∀ b ∈ s.buckets, b.Valid) ∧ (s.buckets.map (·.name)).Nodup := by
  rw [bucketsFault?, List.findSome?_eq_none_iff, nodup_map_iff_not_mem_take]
  constructor
  · intro h
    have each (index : Nat) (b : BucketSettings) (hi : s.buckets[index]? = some b) :
        b.Valid ∧ b.name ∉ (s.buckets.take index).map (·.name) :=
      BucketSettings.fault?_eq_none_iff.1 (h (b, index) (List.mk_mem_zipIdx_iff_getElem?.2 hi))
    refine ⟨fun b hb => ?_, fun index b hi => (each index b hi).2⟩
    obtain ⟨index, hi⟩ := List.getElem?_of_mem hb
    exact (each index b hi).1
  · rintro ⟨valid, distinct⟩ ⟨b, index⟩ hb
    have hi := List.mk_mem_zipIdx_iff_getElem?.1 hb
    exact BucketSettings.fault?_eq_none_iff.2 ⟨valid b (List.mem_of_getElem? hi), distinct index b hi⟩

/-- **Settings are accepted if and only if they are valid.** -/
theorem validate_eq_ok_iff : s.validate = .ok () ↔ s.Valid := by
  have accepted : s.validate = .ok () ↔ s.fault? = none := by
    unfold validate
    cases s.fault? <;> simp
  rw [accepted]
  simp only [fault?, Option.or_eq_none_iff, nodesFault?_eq_none_iff, bucketsFault?_eq_none_iff]
  constructor
  · rintro ⟨⟨⟨listeners, logLevel⟩, holder, nodes⟩, buckets, distinct⟩
    exact ⟨listeners, by simpa using logLevel, holder, nodes, buckets, distinct⟩
  · rintro ⟨listeners, logLevel, holder, nodes, buckets, distinct⟩
    exact ⟨⟨⟨listeners, if_pos logLevel⟩, holder, nodes⟩, buckets, distinct⟩

/-- **The conditions under which settings are accepted.** The bind address is one; the port of the first node is not
zero and leaves room for all nodes; the level of logging is known; some node holds documents; all nodes and all buckets
are valid; and no two buckets have one name. The check for room comes to the same with sums of 32 bits. -/
theorem validate_iff_conditions (few : s.nodes.length < 2 ^ 31) :
    (s.validate = .ok () ↔
      (∃ address, IpAddress.ofString? s.listeners.bind = some address) ∧
      (∀ setting, ∀ b ∈ s.listeners.portBase? setting, 1 ≤ b ∧ b + s.nodes.length ≤ 65536) ∧
      s.logLevel ∈ ["trace", "debug", "info", "warn", "error"] ∧
      s.nodes ≠ [] ∧ (∃ n ∈ s.nodes, Service.kv ∈ n.services) ∧
      (∀ n ∈ s.nodes, n.hostname ≠ "" ∧
        (∀ a ∈ n.alternates.values, ∀ name ∈ a.ports.names, ∃ service : Service, service.name = name) ∧
        (n.network = "default" ∨ n.network ∈ n.alternates.names)) ∧
      (∀ b ∈ s.buckets, b.name ≠ "" ∧ 1 ≤ b.vbuckets ∧ b.replicas ≤ 3) ∧
      (s.buckets.map (·.name)).Nodup) ∧
    ∀ (setting : PortBase) (base : UInt16), setting.wordFault? (UInt32.ofNat s.nodes.length) base =
      setting.fault? s.nodes.length (some base.toNat) := by
  refine ⟨?_, fun setting base => PortBase.wordFault?_eq few base⟩
  have nodes := forall₂_congr fun n (_ : n ∈ s.nodes) => @NodeSettings.valid_iff n
  have buckets := forall₂_congr fun b (_ : b ∈ s.buckets) => @BucketSettings.valid_iff b
  rw [validate_eq_ok_iff, ← nodes, ← buckets]
  constructor
  · rintro ⟨listeners, logLevel, holder, nodes, buckets, distinct⟩
    obtain ⟨address, ports⟩ := listenersFault?_eq_none_iff.1 listeners
    have some : s.nodes ≠ [] := by
      obtain ⟨n, hn, -⟩ := holder
      exact List.ne_nil_of_mem hn
    exact ⟨address, ports, logLevel, some, holder, nodes, buckets, distinct⟩
  · rintro ⟨address, ports, logLevel, -, holder, nodes, buckets, distinct⟩
    exact ⟨listenersFault?_eq_none_iff.2 ⟨address, ports⟩, logLevel, holder, nodes, buckets, distinct⟩

/-- Three nodes fill the ports up to the last one. Each has the network that it advertises, and two buckets have names
that differ in case only. -/
theorem validate_iff_conditions_full :
    let n : NodeSettings := ⟨"a", [.kv], "outside", .ofList [("outside", ⟨"b", .ofList [("kv", 1), ("mgmt", 2)]⟩)]⟩
    let s : Settings := { Settings.standard with
      listeners := ⟨"::1", some 65533, none⟩
      nodes := [n, n, n]
      buckets := [⟨"x", 3, 1, none⟩, ⟨"X", 0, 1024, none⟩] }
    s.nodes.length < 2 ^ 31 ∧ s.validate = .ok () ∧
      { s with nodes := [n, n, n, n] }.validate = .error (.noRoom .kv 65533 4) := by
  intro n s
  have few : s.nodes.length < 2 ^ 31 := by decide
  have services : n.alternates.values.flatMap (·.ports.names) = ["kv", "mgmt"] := by decide +kernel
  have node : n.hostname ≠ "" ∧
      (∀ a ∈ n.alternates.values, ∀ name ∈ a.ports.names, ∃ service : Service, service.name = name) ∧
      (n.network = "default" ∨ n.network ∈ n.alternates.names) := by
    refine ⟨by decide, fun a ha name hn => ?_, .inr (by decide +kernel)⟩
    have listed : name ∈ ["kv", "mgmt"] := services ▸ List.mem_flatMap.2 ⟨a, ha, hn⟩
    obtain rfl | rfl : name = "kv" ∨ name = "mgmt" := by simpa using listed
    · exact ⟨.kv, rfl⟩
    · exact ⟨.mgmt, rfl⟩
  refine ⟨few, (validate_iff_conditions few).1.2 ⟨⟨.v6 [0, 0, 0, 0, 0, 0, 0, 1], by decide +kernel⟩, ?_, by decide,
    by decide, ⟨n, .head _, by decide⟩, ?_, by decide +kernel, by decide +kernel⟩, by decide +kernel⟩
  · rintro (_ | _) b hb
    · obtain rfl : 65533 = b := by simpa [s, ListenerSettings.portBase?] using hb
      decide
    · simp [s, ListenerSettings.portBase?] at hb
  · intro m hm
    obtain rfl : m = n := by simpa [s] using hm
    exact node

end Settings

end MockCluster
