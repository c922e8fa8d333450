import MockCluster.Kv.World
import MockCluster.Proofs.Services.Served
import MockCluster.Proofs.Topology.BucketView

/-!
# Sessions

Connections come in, requests are made on them in any order, and in between the topology changes. With the built-in
services alone, the state of a connection follows from the requests on this connection that were answered with success:

| state | follows from |
| --- | --- |
| features | the last HELLO |
| user | any SASL_AUTH |
| bucket | the last SELECT_BUCKET |

The bucket was there when it was selected, and may be gone since; so may the node that accepted the connection. What a
connection is told about the cluster (`Client.Told`) depends on the topology of the moment.

`Course` says what may happen and keeps a `Chronicle` of it, and `session_of_course` what state that leads to.
-/

namespace MockCluster

theorem Feature.code_of_ofCode? {f : Feature} {n : UInt16} (h : Feature.ofCode? n = some f) : f.code = n := by
  simpa using List.find?_some h

namespace Kv

open MockCluster.Script (Memory)

/-- A request and what became of it. -/
structure Exchanged where
  /-- The place of the connection among all connections. -/
  connection : Nat
  request : Packet
  /-- The topology of the moment. -/
  topology : Topology
  answer : Answer

/-- Whether an operation was asked for and the answer was a success. -/
def Exchanged.succeeded (x : Exchanged) (command : Command) : Bool :=
  x.request.command = command && x.answer.response.any (·.status = .success)

/-- What happened so far. -/
structure Chronicle where
  /-- The nodes that accepted connections, the first one first. -/
  accepted : List NodeId
  /-- The topologies that there were, the latest first. -/
  published : List Topology
  /-- The requests on all connections, the latest first. -/
  exchanged : List Exchanged

namespace Chronicle

/-- One more request. -/
def record (chronicle : Chronicle) (x : Exchanged) : Chronicle :=
  { chronicle with exchanged := x :: chronicle.exchanged }

/-- The last request for an operation on a connection that was answered with success. -/
def lastSuccess? (chronicle : Chronicle) (connection : Nat) (command : Command) : Option Exchanged :=
  chronicle.exchanged.find? fun x => x.connection = connection && x.succeeded command

/-- The supported ones among the features that the last HELLO asked for. -/
def features (chronicle : Chronicle) (connection : Nat) : List Feature :=
  match chronicle.lastSuccess? connection .hello with
  | none => []
  | some x => Feature.all.filter fun f =>
    f ∈ Builtin.supportedFeatures ∧ f.code ∈ Builtin.codes x.request.value

/-- The configured user, if there was any SASL_AUTH. -/
def user (credentials : Credentials) (chronicle : Chronicle) (connection : Nat) : Option String :=
  (chronicle.lastSuccess? connection .saslAuth).map fun _ => credentials.username

/-- The bucket that the last SELECT_BUCKET named. -/
def bucket (chronicle : Chronicle) (connection : Nat) : Option String :=
  (chronicle.lastSuccess? connection .selectBucket).map fun x => Utf8.decodeLossy x.request.key

end Chronicle

/-- A node accepts a connection. -/
def World.accept (w : World Handler Memory) (node : NodeId) : World Handler Memory :=
  { w with clients := w.clients ++ [.create (w.clients.length + 1) node] }

/-- The topology is changed. -/
def World.mutate (w : World Handler Memory) (m : Topology.Mutation) : World Handler Memory :=
  { w with shared := { w.shared with topology := (w.shared.topology.mutate m).2 } }

/-- What happens to connections and to the cluster if the built-in services answer. It begins without connections and
with an empty cluster. -/
inductive Course (credentials : Credentials) : Chronicle → World Handler Memory → Prop
  | start {shared : Shared Handler Memory} (offers : shared.OffersBuiltins credentials)
      (empty : shared.topology = .initial) : Course credentials ⟨[], [.initial], []⟩ ⟨[], shared⟩
  | accept {chronicle : Chronicle} {w : World Handler Memory} (course : Course credentials chronicle w)
      (node : NodeId) :
      Course credentials { chronicle with accepted := chronicle.accepted ++ [node] } (w.accept node)
  | mutate {chronicle : Chronicle} {w : World Handler Memory} (course : Course credentials chronicle w)
      (m : Topology.Mutation) (known : ∀ earlier fault, m = .restore earlier fault → earlier ∈ chronicle.published) :
      Course credentials
        { chronicle with published := (w.shared.topology.mutate m).2 :: chronicle.published } (w.mutate m)
  | request {chronicle : Chronicle} {w next : World Handler Memory} (course : Course credentials chronicle w)
      (connection : Nat) (p : Packet) {answer : Answer}
      (answered : w.dispatch Handler.behaviour connection p = some (answer, next)) :
      Course credentials (chronicle.record ⟨connection, p, w.shared.topology, answer⟩) next

/-- What a connection is told about the cluster when it asks for it. -/
structure Client.Told (c : Client Handler) (t : Topology) (p response : Packet) : Prop where
  /-- The node that accepted the connection is gone. -/
  nodeGone : (∀ node ∈ t.nodes, node.id ≠ c.node) → response = { p.responseTo with status := .internalError }
  /-- No bucket is selected. -/
  cluster : (∃ node ∈ t.nodes, node.id = c.node) → c.bucket = none →
    ∃ config, t.clusterConfig c.node = .ok config ∧
      response = { p.responseTo with
        value := config, datatype := if .json ∈ c.features then Packet.jsonDatatype else 0 }
  /-- The selected bucket is gone. -/
  bucketGone : (∃ node ∈ t.nodes, node.id = c.node) → ∀ name, c.bucket = some name → t.bucket? name = none →
    response = { p.responseTo with status := .noBucket, value := [] }
  /-- The selected bucket is there. -/
  bucket : (∃ node ∈ t.nodes, node.id = c.node) → ∀ name b, c.bucket = some name → t.bucket? name = some b →
    ∃ config, t.bucketConfig name c.node = .ok config ∧
      response = { p.responseTo with
        value := config, datatype := if .json ∈ c.features then Packet.jsonDatatype else 0 }

section Features

namespace Builtin

theorem mem_filter_ofCode? {numbers : List UInt16} {f : Feature} :
    f ∈ (numbers.filterMap Feature.ofCode?).filter (· ∈ supportedFeatures) ↔
      f ∈ supportedFeatures ∧ f.code ∈ numbers := by
  rw [List.mem_filter, List.mem_filterMap, decide_eq_true_iff, and_comm]
  refine and_congr_right fun _ => ⟨?_, fun h => ⟨f.code, h, Feature.ofCode?_code f⟩⟩
  rintro ⟨n, hn, hf⟩
  rwa [Feature.code_of_ofCode? hf]

theorem mem_agreedFeatures {value : Bytes} {f : Feature} :
    f ∈ agreedFeatures value ↔ f ∈ supportedFeatures ∧ f.code ∈ codes value := by
  rw [agreedFeatures, List.mem_eraseDups, mem_filter_ofCode?]

/-- A value names the features that it was written for. -/
theorem codes_featureValue (features : List Feature) : codes (featureValue features) = features.map (·.code) := by
  induction features with
  | nil => rfl
  | cons f rest ih =>
    have front : codes (Bytes.bigEndian 2 f.code.toNat ++ featureValue rest) = f.code :: codes (featureValue rest) := by
      cases f <;> rfl
    rw [List.map_cons, ← ih, ← front]
    rfl

/-- The agreed features, as a connection keeps them. -/
theorem normalize_agreedFeatures (value : Bytes) :
    Feature.normalize (agreedFeatures value) =
      Feature.all.filter fun f => f ∈ supportedFeatures ∧ f.code ∈ codes value :=
  List.filter_congr fun _ _ => decide_eq_decide.2 mem_agreedFeatures

end Builtin

end Features

section Successes

namespace Builtin

variable {H : Type} {credentials : Credentials} {b : Builtin}

theorem of_service? {p : Packet} (h : service? credentials p = some b) :
    b.command = p.command ∧ b ∈ all credentials := by
  unfold service? at h
  split at h
  · split at h <;> cases h <;> simp_all [command, all]
  · cases h

variable (b : Builtin) (c : Client H) (t : Topology) (p : Packet)

/-- Only a successful HELLO changes the features. -/
theorem features_after : (b.after c t p).features =
    if b.command = .hello ∧ (b.reply c t p).status = .success then
      Feature.all.filter fun f => f ∈ supportedFeatures ∧ f.code ∈ codes p.value
    else c.features := by
  rw [← normalize_agreedFeatures]
  cases b with
  | hello =>
    by_cases odd : p.value.length % 2 ≠ 0 <;> simp [after, reply, command, odd, Packet.responseTo, Packet.request]
  | saslAuth => unfold after; dsimp only; split <;> simp [command]
  | selectBucket => unfold after; dsimp only; split <;> simp [command]
  | noop | saslListMechs | getClusterConfig => simp [after, command]

/-- Only a successful SASL_AUTH changes the user. -/
theorem user_after (h : b ∈ all credentials) : (b.after c t p).user =
    if b.command = .saslAuth ∧ (b.reply c t p).status = .success then some credentials.username else c.user := by
  cases b with
  | saslAuth own =>
    obtain rfl : own = credentials := by simpa [all] using h
    by_cases right : p.key = Utf8.encode "PLAIN" ∧ authenticates own p.value = true <;>
      simp [after, reply, command, right, Packet.responseTo, Packet.request]
  | hello => unfold after; dsimp only; split <;> simp [command]
  | selectBucket => unfold after; dsimp only; split <;> simp [command]
  | noop | saslListMechs | getClusterConfig => simp [after, command]

/-- Only a successful SELECT_BUCKET changes the bucket. -/
theorem bucket_after : (b.after c t p).bucket =
    if b.command = .selectBucket ∧ (b.reply c t p).status = .success then some (Utf8.decodeLossy p.key)
    else c.bucket := by
  cases b with
  | selectBucket =>
    cases hb : t.bucket? (Utf8.decodeLossy p.key) <;>
      simp [after, reply, command, hb, Packet.responseTo, Packet.request]
  | hello => unfold after; dsimp only; split <;> simp [command]
  | saslAuth => unfold after; dsimp only; split <;> simp [command]
  | noop | saslListMechs | getClusterConfig => simp [after, command]

end Builtin

variable {credentials : Credentials} {c : Client Handler} {x : Exchanged}

/-- A request that was answered as a connection answers it. -/
def Exchanged.AnsweredBy (credentials : Credentials) (c : Client Handler) (x : Exchanged) : Prop :=
  x.answer.response = c.replyTo? credentials x.topology x.request

namespace Exchanged.AnsweredBy

theorem succeeded_iff (h : x.AnsweredBy credentials c) {b : Builtin}
    (hb : Builtin.service? credentials x.request = some b) (command : Command) :
    x.succeeded command = true ↔ b.command = command ∧ (b.reply c x.topology x.request).status = .success := by
  rw [AnsweredBy, Client.replyTo?, hb] at h
  simp [succeeded, h, (Builtin.of_service? hb).1]

theorem not_succeeded (h : x.AnsweredBy credentials c) (hb : Builtin.service? credentials x.request = none)
    (command : Command) : x.succeeded command = false := by
  rw [AnsweredBy, Client.replyTo?, hb] at h
  simp [succeeded, h]

/-- A part of the state that only one service changes, and only with success. -/
theorem part_eq {α : Type} {part : Client Handler → α} {command : Command} {value : α} (h : x.AnsweredBy credentials c)
    (after : ∀ b ∈ Builtin.all credentials, part (b.after c x.topology x.request) =
      if b.command = command ∧ (b.reply c x.topology x.request).status = .success then value else part c) :
    part (c.afterRequest credentials x.topology x.request) = if x.succeeded command = true then value else part c := by
  unfold Client.afterRequest
  cases hb : Builtin.service? credentials x.request with
  | none => rw [h.not_succeeded hb, if_neg Bool.false_ne_true]
  | some b => simp only [after b (Builtin.of_service? hb).2, h.succeeded_iff hb]

theorem features_eq (h : x.AnsweredBy credentials c) :
    (c.afterRequest credentials x.topology x.request).features =
      if x.succeeded .hello = true then
        Feature.all.filter fun f => f ∈ Builtin.supportedFeatures ∧ f.code ∈ Builtin.codes x.request.value
      else c.features :=
  h.part_eq fun b _ => b.features_after c x.topology x.request

theorem user_eq (h : x.AnsweredBy credentials c) :
    (c.afterRequest credentials x.topology x.request).user =
      if x.succeeded .saslAuth = true then some credentials.username else c.user :=
  h.part_eq fun b hb => b.user_after c x.topology x.request hb

theorem bucket_eq (h : x.AnsweredBy credentials c) :
    (c.afterRequest credentials x.topology x.request).bucket =
      if x.succeeded .selectBucket = true then some (Utf8.decodeLossy x.request.key) else c.bucket :=
  h.part_eq fun b _ => b.bucket_after c x.topology x.request

theorem of_succeeded (h : x.AnsweredBy credentials c) {command : Command} (hs : x.succeeded command = true) :
    ∃ b, Builtin.service? credentials x.request = some b ∧ b.command = command ∧
      (b.reply c x.topology x.request).status = .success := by
  cases hb : Builtin.service? credentials x.request with
  | none => rw [h.not_succeeded hb] at hs; cases hs
  | some b => exact ⟨b, rfl, (h.succeeded_iff hb command).1 hs⟩

/-- A bucket that was selected was there. -/
theorem exists_bucket (h : x.AnsweredBy credentials c) (hs : x.succeeded .selectBucket = true) :
    ∃ b, x.topology.bucket? (Utf8.decodeLossy x.request.key) = some b := by
  obtain ⟨b, -, hc, hs⟩ := h.of_succeeded hs
  cases b with
  | selectBucket =>
    cases hb : x.topology.bucket? (Utf8.decodeLossy x.request.key) with
    | none => simp [Builtin.reply, hb] at hs
    | some b => exact ⟨b, rfl⟩
  | _ => cases hc

/-- A HELLO that succeeded was answered with the features that were agreed on. -/
theorem exists_response (h : x.AnsweredBy credentials c) (hs : x.succeeded .hello = true) :
    ∃ response, x.answer.response = some response ∧ ∀ f : Feature,
      f.code ∈ Builtin.codes response.value ↔
        f ∈ Builtin.supportedFeatures ∧ f.code ∈ Builtin.codes x.request.value := by
  obtain ⟨b, hb, hc, hs⟩ := h.of_succeeded hs
  cases b with
  | hello =>
    refine ⟨_, h.trans (congrArg (Option.map _) hb), fun f => ?_⟩
    by_cases odd : x.request.value.length % 2 ≠ 0
    · simp [Builtin.reply, odd] at hs
    · rw [← Builtin.mem_agreedFeatures]
      simp only [Builtin.reply, if_neg odd, Builtin.codes_featureValue, List.mem_map]
      constructor
      · rintro ⟨g, hg, same⟩
        rwa [← Feature.code_injective same]
      · exact fun hf => ⟨f, hf, rfl⟩
  | _ => cases hc

end Exchanged.AnsweredBy

end Successes

/-- What a connection that asks for the configuration is answered is what it is to be told. -/
theorem Client.told_configResponse {t : Topology} (c : Client Handler) (balanced : t.Balanced) (p : Packet) :
    c.Told t p (Builtin.configResponse c t p) where
  nodeGone absent := by
    have fault : Builtin.configFor c t = .error (.unknownNode c.node) := by
      unfold Builtin.configFor
      split
      · exact Topology.bucketConfig_of_absent_node absent
      · exact Topology.clusterConfig_of_absent_node absent
    simp only [Builtin.configResponse, fault, Fault.status]
  cluster := by
    rintro ⟨node, hn, hid⟩ hb
    obtain ⟨config, hc⟩ := balanced.exists_clusterConfig hn
    rw [hid] at hc
    exact ⟨config, hc, by simp only [Builtin.configResponse, Builtin.configFor, hb, hc]⟩
  bucketGone := by
    rintro ⟨node, hn, hid⟩ name hb absent
    have hc := Topology.bucketConfig_of_absent_bucket (balanced.node?_eq hn) absent
    rw [hid] at hc
    simp only [Builtin.configResponse, Builtin.configFor, hb, hc, Fault.status]
    rfl
  bucket := by
    rintro ⟨node, hn, hid⟩ name b hb present
    obtain ⟨config, hc⟩ := balanced.exists_bucketConfig hn present
    rw [hid] at hc
    exact ⟨config, hc, by simp only [Builtin.configResponse, Builtin.configFor, hb, hc]⟩

section Run

variable {credentials : Credentials} {chronicle : Chronicle} {w : World Handler Memory} {i : Nat} {c : Client Handler}

/-- What is answered to a request on a connection, and what becomes of this connection. -/
theorem World.dispatch_builtins (offers : w.shared.OffersBuiltins credentials) (hc : w.clients[i]? = some c)
    (own : c.own.entries = []) (p : Packet) :
    ∃ defaults : Scope (Rule Handler), defaults.entries = w.shared.defaults.entries ∧
      w.dispatch Handler.behaviour i p =
        some (⟨.ok (.ok (c.replyTo? credentials w.shared.topology p).isSome),
            c.replyTo? credentials w.shared.topology p, none, false⟩,
          ⟨w.clients.set i (c.afterRequest credentials w.shared.topology p), { w.shared with defaults }⟩) := by
  obtain ⟨defaults, same, returned⟩ := Kv.dispatch_builtins offers own p
  refine ⟨defaults, same, ?_⟩
  simp only [dispatch, withClient, hc, Option.map_some, returned]
  rfl

namespace Chronicle

variable {x : Exchanged}

theorem lastSuccess?_record (chronicle : Chronicle) (x : Exchanged) (i : Nat) (command : Command) :
    (chronicle.record x).lastSuccess? i command =
      if x.connection = i ∧ x.succeeded command = true then some x else chronicle.lastSuccess? i command := by
  by_cases hx : x.connection = i ∧ x.succeeded command = true
  · rw [if_pos hx]
    exact List.find?_cons_of_pos (by simpa using hx)
  · rw [if_neg hx]
    exact List.find?_cons_of_neg (by simpa using hx)

/-- The state of a connection is what follows from what happened. -/
structure Explains (credentials : Credentials) (chronicle : Chronicle) (i : Nat) (c : Client Handler) : Prop where
  accepted : chronicle.accepted[i]? = some c.node
  own : c.own.entries = []
  features : c.features = chronicle.features i
  user : c.user = chronicle.user credentials i
  bucket : c.bucket = chronicle.bucket i

/-- A request on another connection changes nothing. -/
theorem Explains.record_of_ne (h : chronicle.Explains credentials i c) (hx : x.connection ≠ i) :
    (chronicle.record x).Explains credentials i c where
  accepted := h.accepted
  own := h.own
  features := by rw [h.features]; simp [Chronicle.features, lastSuccess?_record, hx]
  user := by rw [h.user]; simp [Chronicle.user, lastSuccess?_record, hx]
  bucket := by rw [h.bucket]; simp [Chronicle.bucket, lastSuccess?_record, hx]

/-- A request on the connection itself changes what follows from its success. -/
theorem Explains.record (h : chronicle.Explains credentials x.connection c) (hx : x.AnsweredBy credentials c) :
    (chronicle.record x).Explains credentials x.connection
      (c.afterRequest credentials x.topology x.request) where
  accepted := by rw [Client.node_afterRequest]; exact h.accepted
  own := by rw [Client.own_afterRequest]; exact h.own
  features := by
    rw [hx.features_eq, Chronicle.features, lastSuccess?_record, h.features]
    by_cases hs : x.succeeded .hello = true <;> simp [hs, Chronicle.features]
  user := by
    rw [hx.user_eq, Chronicle.user, lastSuccess?_record, h.user]
    by_cases hs : x.succeeded .saslAuth = true <;> simp [hs, Chronicle.user]
  bucket := by
    rw [hx.bucket_eq, Chronicle.bucket, lastSuccess?_record, h.bucket]
    by_cases hs : x.succeeded .selectBucket = true <;> simp [hs, Chronicle.bucket]

/-- What happened explains everything there is. -/
structure Accounts (credentials : Credentials) (chronicle : Chronicle) (w : World Handler Memory) : Prop where
  offers : w.shared.OffersBuiltins credentials
  current : ∃ past, chronicle.published = w.shared.topology :: past
  history : ∃ ms, Topology.History ms chronicle.published
  accepted : chronicle.accepted.length = w.clients.length
  clients : ∀ i c, w.clients[i]? = some c → chronicle.Explains credentials i c
  /-- Nothing was asked on connections that are still to come. -/
  connection : ∀ x ∈ chronicle.exchanged, x.connection < w.clients.length
  answered : ∀ x ∈ chronicle.exchanged, ∃ c, x.AnsweredBy credentials c

end Chronicle

namespace Chronicle.Accounts

/-- A new connection is in the state of a connection on which nothing was asked. -/
theorem accept (h : chronicle.Accounts credentials w) (node : NodeId) :
    ({ chronicle with accepted := chronicle.accepted ++ [node] } : Chronicle).Accounts credentials (w.accept node) where
  offers := h.offers
  current := h.current
  history := h.history
  accepted := by simp [World.accept, h.accepted]
  clients i c hc := by
    simp only [World.accept, List.getElem?_append] at hc
    split at hc
    · rename_i old
      have before := h.clients i c hc
      exact { before with
        accepted := by rw [List.getElem?_append_left (h.accepted ▸ old)]; exact before.accepted }
    · rename_i late
      -- The new connection is behind all others, and no request was made at its place.
      obtain ⟨rfl, rfl⟩ : i = w.clients.length ∧ Client.create (w.clients.length + 1) node = c := by
        rw [List.getElem?_singleton] at hc
        split at hc
        · exact ⟨by omega, Option.some.inj hc⟩
        · cases hc
      have silent (command : Command) : chronicle.lastSuccess? w.clients.length command = none := by
        refine List.find?_eq_none.2 fun x hx => ?_
        simp [Nat.ne_of_lt (h.connection x hx)]
      exact {
        accepted := by rw [← h.accepted, List.getElem?_concat_length]; rfl
        own := rfl
        features := by
          change [] = chronicle.features _
          rw [Chronicle.features, silent]
        user := by
          change none = chronicle.user credentials _
          rw [Chronicle.user, silent]; rfl
        bucket := by
          change none = chronicle.bucket _
          rw [Chronicle.bucket, silent]; rfl }
  connection x hx := by
    have := h.connection x hx
    simp only [World.accept, List.length_append]
    omega
  answered := h.answered

/-- A change of the topology leaves the connections alone. -/
theorem mutate (h : chronicle.Accounts credentials w) (m : Topology.Mutation)
    (known : ∀ earlier fault, m = .restore earlier fault → earlier ∈ chronicle.published) :
    ({ chronicle with published := (w.shared.topology.mutate m).2 :: chronicle.published } : Chronicle).Accounts
      credentials (w.mutate m) where
  offers := ⟨h.offers.overrides, h.offers.defaults⟩
  current := ⟨_, rfl⟩
  history := by
    obtain ⟨past, hp⟩ := h.current
    obtain ⟨ms, history⟩ := h.history
    rw [hp] at history known ⊢
    exact ⟨m :: ms, .mutate history m known⟩
  accepted := h.accepted
  clients i c hc := { h.clients i c hc with }
  connection := h.connection
  answered := h.answered

/-- A request changes the connection that it is made on, as its answer says. -/
theorem request {next : World Handler Memory} {p : Packet} {answer : Answer} (h : chronicle.Accounts credentials w)
    (answered : w.dispatch Handler.behaviour i p = some (answer, next)) :
    (chronicle.record ⟨i, p, w.shared.topology, answer⟩).Accounts credentials next := by
  have open_ : i < w.clients.length := by
    by_contra none
    simp [World.dispatch, World.withClient, List.getElem?_eq_none (Nat.le_of_not_lt none)] at answered
  have hc : w.clients[i]? = some w.clients[i] := List.getElem?_eq_getElem open_
  have explained := h.clients i _ hc
  obtain ⟨defaults, same, dispatched⟩ := World.dispatch_builtins h.offers hc explained.own p
  rw [dispatched] at answered
  obtain ⟨rfl, rfl⟩ := Prod.mk.inj (Option.some.inj answered)
  exact {
    offers := h.offers.of_entries same
    current := h.current
    history := h.history
    accepted := by rw [List.length_set]; exact h.accepted
    clients := fun j c hj => by
      by_cases here : i = j
      · subst here
        rw [List.getElem?_set_self open_] at hj
        obtain rfl := Option.some.inj hj
        exact Explains.record explained rfl
      · rw [List.getElem?_set_ne here] at hj
        exact (h.clients j c hj).record_of_ne here
    connection := by
      rw [List.length_set]
      exact List.forall_mem_cons.2 ⟨open_, h.connection⟩
    answered := List.forall_mem_cons.2 ⟨⟨_, rfl⟩, h.answered⟩ }

end Chronicle.Accounts

/-- **Whatever happens is accounted for.** -/
theorem Course.accounts (course : Course credentials chronicle w) : chronicle.Accounts credentials w := by
  induction course with
  | start offers empty =>
    exact ⟨offers, ⟨[], by rw [empty]⟩, ⟨[], .start⟩, rfl, by simp, by simp, by simp⟩
  | accept _ node ih => exact ih.accept node
  | mutate _ m known ih => exact ih.mutate m known
  | request _ _ _ answered ih => exact ih.request answered

/-- **The state of a connection, and what it is told.** After any requests on any connections and any changes of the
cluster in between, the node of a connection is the one that accepted it. Its features are those that the last
successful HELLO on it asked for and that are supported, which are those of the answer; its user is the configured one
if any SASL_AUTH on it was successful; its bucket is the one of the last successful SELECT_BUCKET on it, and was there
at that moment. If it asks for the configuration now, it is told what the current topology says. -/
theorem session_of_course (course : Course credentials chronicle w) (hc : w.clients[i]? = some c) :
    chronicle.accepted[i]? = some c.node ∧
    chronicle.published.head? = some w.shared.topology ∧
    c.features = chronicle.features i ∧
    (∀ x, chronicle.lastSuccess? i .hello = some x → ∃ response, x.answer.response = some response ∧
      ∀ f, f ∈ c.features ↔ f.code ∈ Builtin.codes response.value) ∧
    c.user = chronicle.user credentials i ∧
    c.bucket = chronicle.bucket i ∧
    (∀ x, chronicle.lastSuccess? i .selectBucket = some x →
      ∃ b, x.topology.bucket? (Utf8.decodeLossy x.request.key) = some b) ∧
    ∀ p : Packet, p.magic = .req → p.command = .getClusterConfig →
      ∃ response next, w.dispatch Handler.behaviour i p = some (⟨.ok (.ok true), some response, none, false⟩, next) ∧
        c.Told w.shared.topology p response := by
  have accounts := course.accounts
  have explained := accounts.clients i c hc
  obtain ⟨past, hp⟩ := accounts.current
  obtain ⟨ms, history⟩ := accounts.history
  have found {command : Command} {x : Exchanged} (hx : chronicle.lastSuccess? i command = some x) :
      (∃ c, x.AnsweredBy credentials c) ∧ x.succeeded command = true := by
    have successful := List.find?_some hx
    rw [Bool.and_eq_true] at successful
    exact ⟨accounts.answered x (List.mem_of_find?_eq_some hx), successful.2⟩
  refine ⟨explained.accepted, by rw [hp]; rfl, explained.features, fun x hx => ?_, explained.user, explained.bucket,
    fun x hx => ?_, fun p hm hcmd => ?_⟩
  · obtain ⟨⟨_, answered⟩, successful⟩ := found hx
    obtain ⟨response, hr, agreed⟩ := answered.exists_response successful
    refine ⟨response, hr, fun f => ?_⟩
    rw [agreed, explained.features, Chronicle.features, hx]
    simp [Feature.mem_all]
  · obtain ⟨⟨_, answered⟩, successful⟩ := found hx
    exact answered.exists_bucket successful
  · obtain ⟨defaults, -, dispatched⟩ := World.dispatch_builtins accounts.offers hc explained.own p
    rw [Client.replyTo?_of_getClusterConfig hm hcmd] at dispatched
    have balanced := history.balanced w.shared.topology (by rw [hp]; exact List.mem_cons_self)
    exact ⟨_, _, dispatched, c.told_configResponse balanced p⟩

/-- A connection agrees on JSON and selects a bucket, and then the bucket is removed: it is still selected, and there is
no configuration to be told. -/
theorem session_of_course_removed :
    ∃ (chronicle : Chronicle) (w : World Handler Memory) (c : Client Handler), Course .standard chronicle w ∧
      w.clients[0]? = some c ∧ (c.node, c.features, c.user, c.bucket) = (0, [.json], none, some "x") ∧
      ∃ response next, w.dispatch Handler.behaviour 0 (.request .getClusterConfig) =
          some (⟨.ok (.ok true), some response, none, false⟩, next) ∧
        (response.status, response.value) = (.noBucket, []) := by
  let hello : Packet := { Packet.request .hello with value := [0x00, 0x0b] }
  let select : Packet := { Packet.request .selectBucket with key := Utf8.encode "x" }
  have opened : Course .standard _ _ :=
    .mutate (.mutate (.accept (.start (offersBuiltins_registerAll .standard .initial .empty) rfl) 0)
      (.addNode "a" [.kv]) nofun) (.addBucket ⟨"x", 0, 1, none⟩) nofun
  -- What the run leads to is evaluated here, and forgotten before the theorem is applied.
  obtain ⟨chronicle, w, c, course, hc, node, features, user, bucket, there, gone⟩ :
      ∃ (chronicle : Chronicle) (w : World Handler Memory) (c : Client Handler), Course .standard chronicle w ∧
        w.clients[0]? = some c ∧ chronicle.accepted[0]? = some 0 ∧ chronicle.features 0 = [.json] ∧
        chronicle.user .standard 0 = none ∧ chronicle.bucket 0 = some "x" ∧
        (∃ node ∈ w.shared.topology.nodes, node.id = 0) ∧ (w.shared.topology.bucket? "x").isNone = true :=
    ⟨_, _, _, .mutate (.request (.request opened 0 hello rfl) 0 select rfl) (.removeBucket "x") nofun, rfl, rfl,
      by decide +kernel, by decide +kernel, by decide +kernel, by decide +kernel, by decide +kernel⟩
  obtain ⟨accepted, -, agreed, -, authenticated, selected, -, told⟩ := session_of_course course hc
  have home : c.node = 0 := Option.some.inj (accepted.symm.trans node)
  obtain ⟨response, next, answered, told⟩ := told (.request .getClusterConfig) rfl rfl
  have reply := told.bucketGone (by rwa [home]) "x" (selected.trans bucket) (Option.isNone_iff_eq_none.1 gone)
  refine ⟨chronicle, w, c, course, hc, ?_, response, next, answered, by rw [reply]⟩
  rw [home, agreed, features, authenticated, user, selected, bucket]

end Run

end Kv

end MockCluster
