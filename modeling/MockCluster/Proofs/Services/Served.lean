import MockCluster.Kv.Script
import MockCluster.Proofs.Dispatch.Order

/-!
# What built-in services answer

If nothing but the built-in services is registered, a request reaches one of them or none: each is for the plain
requests of one operation. `Builtin.service?` says which one, `Builtin.reply` what it answers, and `Builtin.after` what
it makes of the state of the connection. A dispatch does this and nothing else (`dispatch_builtins`); only the counts of
firings go on, which no service looks at.

| operation | reply | state afterwards |
| --- | --- | --- |
| HELLO | the agreed features | these features; the same as before if the value has an odd length |
| SASL_AUTH | success or an error | the user, if it was a success |
| SELECT_BUCKET | success or an error | the bucket, if it was a success |
| NOOP, SASL_LIST_MECHS, GET_CLUSTER_CONFIG | see there | the same as before |
-/

namespace MockCluster.Kv

open MockCluster.Script (Memory)

/-- The built-in services are registered and nothing else. Their handles and how often they fired do not matter. -/
structure Shared.OffersBuiltins (credentials : Credentials) (s : Shared Handler Memory) : Prop where
  overrides : s.overrides.entries = []
  defaults : s.defaults.entries.map (fun e => (e.limit, e.content)) =
    (Builtin.all credentials).map fun b => (none, b.rule .builtin)

theorem offersBuiltins_registerAll (credentials : Credentials) (topology : Topology) (memory : Memory) :
    Shared.OffersBuiltins credentials
      ⟨.empty, Builtin.registerAll credentials .builtin .empty, topology, memory⟩ where
  overrides := rfl
  defaults := rfl

namespace Builtin

variable {H M : Type}

/-- The service that a packet is for. -/
def service? (credentials : Credentials) (p : Packet) : Option Builtin :=
  if p.magic = .req then
    match p.command with
    | .hello => some hello
    | .noop => some noop
    | .saslListMechs => some saslListMechs
    | .saslAuth => some (saslAuth credentials)
    | .selectBucket => some selectBucket
    | .getClusterConfig => some getClusterConfig
    | _ => none
  else none

/-- The state of a connection after a service has answered. -/
def after (b : Builtin) (client : Client H) (topology : Topology) (p : Packet) : Client H :=
  match b with
  | hello =>
    if p.value.length % 2 ≠ 0 then client
    else { client with features := Feature.normalize (agreedFeatures p.value) }
  | saslAuth credentials =>
    if p.key = Utf8.encode "PLAIN" ∧ authenticates credentials p.value then
      { client with user := some credentials.username }
    else client
  | selectBucket =>
    match topology.bucket? (Utf8.decodeLossy p.key) with
    | none => client
    | some _ => { client with bucket := some (Utf8.decodeLossy p.key) }
  | noop | saslListMechs | getClusterConfig => client

/-- What a service answers. -/
def reply (b : Builtin) (client : Client H) (topology : Topology) (p : Packet) : Packet :=
  match b with
  | hello =>
    if p.value.length % 2 ≠ 0 then { p.responseTo with status := .invalidArguments }
    else { p.responseTo with value := featureValue (agreedFeatures p.value) }
  | noop => p.responseTo
  | saslListMechs => { p.responseTo with value := Utf8.encode "PLAIN" }
  | saslAuth credentials =>
    if p.key = Utf8.encode "PLAIN" ∧ authenticates credentials p.value then
      { p.responseTo with value := Utf8.encode "Authenticated" }
    else { p.responseTo with status := .authError }
  | selectBucket =>
    match topology.bucket? (Utf8.decodeLossy p.key) with
    | none => { p.responseTo with status := .keyNotFound }
    | some _ => p.responseTo
  | getClusterConfig => configResponse client topology p

/-- Every service answers once and touches nothing but the state of the connection. -/
theorem run_eq (b : Builtin) (ex : Exchange H M) (p : Packet) :
    b.run ex p = Exchange.answer { ex with client := b.after ex.client ex.shared.topology p }
      (b.reply ex.client ex.shared.topology p) := by
  cases b with
  | hello =>
    simp only [run, runHello, after, reply]
    split <;> rfl
  | saslAuth credentials =>
    simp only [run, runSaslAuth, after, reply]
    split <;> rfl
  | selectBucket =>
    simp only [run, runSelectBucket, after, reply]
    cases ex.shared.topology.bucket? (Utf8.decodeLossy p.key) <;> rfl
  | noop | saslListMechs | getClusterConfig => rfl

/-- A connection stays at its node. -/
theorem node_after (b : Builtin) (client : Client H) (topology : Topology) (p : Packet) :
    (b.after client topology p).node = client.node := by
  cases b <;> unfold after <;> dsimp only <;> split <;> rfl

/-- No service registers anything. -/
theorem own_after (b : Builtin) (client : Client H) (topology : Topology) (p : Packet) :
    (b.after client topology p).own = client.own := by
  cases b <;> unfold after <;> dsimp only <;> split <;> rfl

/-- No two services are for the same packet. -/
theorem filter_matches (credentials : Credentials) (p : Packet) :
    ((all credentials).reverse.filter fun b => (b.rule Handler.builtin).matcher.matches p) =
      (service? credentials p).toList := by
  unfold service?
  cases hm : p.magic <;> cases hc : p.command <;>
    simp [all, rule, command, Matcher.matches, hm, hc]

end Builtin

section Dispatch

variable {credentials : Credentials} {client : Client Handler} {shared : Shared Handler Memory}

/-- How often services fired does not matter. -/
theorem Shared.OffersBuiltins.of_entries (offers : shared.OffersBuiltins credentials) {defaults : Scope (Rule Handler)}
    (same : defaults.entries = shared.defaults.entries) :
    Shared.OffersBuiltins credentials { shared with defaults } where
  overrides := offers.overrides
  defaults := by rw [← offers.defaults, ← same]

/-- The candidates of a packet are the one service that it is for. -/
theorem Shared.OffersBuiltins.candidates (offers : shared.OffersBuiltins credentials) (own : client.own.entries = [])
    (p : Packet) :
    ((Exchange.start client shared).candidates p).map (fun c => (c.layer, c.entry.limit, c.entry.content)) =
      (Builtin.service? credentials p).toList.map fun b => (.defaults, none, b.rule .builtin) := by
  have defaults : (shared.defaults.entries.reverse.filter fun e => e.content.matcher.matches p).map
      (fun e => (e.limit, e.content)) =
      (Builtin.service? credentials p).toList.map fun b => (none, b.rule .builtin) := by
    have kept := congrArg (fun l => l.reverse.filter fun x : Option Nat × Rule Handler => x.2.matcher.matches p)
      offers.defaults
    simp only [← List.map_reverse, List.filter_map] at kept
    rw [← Builtin.filter_matches]
    exact kept
  simp only [Exchange.candidates, Layer.all, List.flatMap_cons, List.flatMap_nil, Exchange.candidatesIn,
    Exchange.scope, Exchange.start, own, offers.overrides, List.reverse_nil, List.filter_nil, List.map_nil,
    List.nil_append, List.append_nil, List.map_map]
  have located := congrArg (List.map fun x : Option Nat × Rule Handler => (Layer.defaults, x)) defaults
  simpa [Function.comp_def] using located

/-- The state of a connection after a request. -/
def Client.afterRequest (credentials : Credentials) (client : Client Handler) (topology : Topology) (p : Packet) :
    Client Handler :=
  match Builtin.service? credentials p with
  | none => client
  | some b => b.after client topology p

theorem Client.node_afterRequest (topology : Topology) (p : Packet) :
    (client.afterRequest credentials topology p).node = client.node := by
  unfold afterRequest
  cases Builtin.service? credentials p with
  | none => rfl
  | some b => exact b.node_after client topology p

theorem Client.own_afterRequest (topology : Topology) (p : Packet) :
    (client.afterRequest credentials topology p).own = client.own := by
  unfold afterRequest
  cases Builtin.service? credentials p with
  | none => rfl
  | some b => exact b.own_after client topology p

/-- What a request is answered, if anything. -/
def Client.replyTo? (credentials : Credentials) (client : Client Handler) (topology : Topology) (p : Packet) :
    Option Packet :=
  (Builtin.service? credentials p).map fun b => b.reply client topology p

theorem Client.replyTo?_of_getClusterConfig {p : Packet} (plain : p.magic = .req) (asks : p.command = .getClusterConfig)
    {topology : Topology} :
    client.replyTo? credentials topology p = some (Builtin.configResponse client topology p) := by
  have service : Builtin.service? credentials p = some .getClusterConfig := by simp [Builtin.service?, plain, asks]
  rw [replyTo?, service]
  rfl

/-- **A dispatch to built-in services.** The service that the packet is for answers, and nothing else happens. -/
theorem dispatch_builtins (offers : shared.OffersBuiltins credentials) (own : client.own.entries = []) (p : Packet) :
    ∃ defaults : Scope (Rule Handler), defaults.entries = shared.defaults.entries ∧
      dispatch Handler.behaviour (.start client shared) p =
        .returned ⟨client.afterRequest credentials shared.topology p, { shared with defaults },
          client.replyTo? credentials shared.topology p, none, false⟩
          (.ok (client.replyTo? credentials shared.topology p).isSome) := by
  have candidates := offers.candidates own p
  rw [dispatch_eq]
  unfold Client.afterRequest Client.replyTo?
  cases hs : Builtin.service? credentials p with
  | none =>
    rw [hs] at candidates
    refine ⟨shared.defaults, rfl, ?_⟩
    rw [if_pos (List.map_eq_nil_iff.1 candidates)]
    rfl
  | some b =>
    rw [hs] at candidates
    obtain ⟨c, rest, hcs, hc, hrest⟩ := List.map_eq_cons_iff.1 candidates
    obtain rfl := List.map_eq_nil_iff.1 hrest
    obtain ⟨layer, ⟨handle, limit, content⟩⟩ := c
    simp only [Prod.mk.injEq] at hc
    obtain ⟨rfl, rfl, rfl⟩ := hc
    refine ⟨shared.defaults.fire handle, rfl, ?_⟩
    rw [hcs, if_neg (List.cons_ne_nil _ _)]
    have claimed : Candidate.claim ⟨.defaults, handle, none, b.rule .builtin⟩ (.start client shared) =
        some (.start client { shared with defaults := shared.defaults.fire handle }) := rfl
    rw [Chain.run_finished claimed rfl, Builtin.run_eq]
    rfl

end Dispatch

end MockCluster.Kv
