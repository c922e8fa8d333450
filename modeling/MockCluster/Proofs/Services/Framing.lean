import MockCluster.Proofs.Services.Served

/-!
# Requests with framing extras

A client may put framing extras in front of a request. They belong to the frame, not to the operation; but the frame has
the extended header then, and the packet another magic. HELLO agrees to such requests if it is asked to. A server that
has agreed should answer a request with framing extras as it answers the same request without. The built-in services
are for plain requests only, so they do not:

| request | without framing extras | with framing extras |
| --- | --- | --- |
| of an operation that has a built-in service | answered | not answered |
| of any other operation | not answered | not answered |

`framed_alike_iff` says so for all requests and all framing extras: they do not matter only where no one answers anyway.
`noop_framed_unanswered` is a client that has agreed with the server on such requests, and gets no answer to one.
-/

namespace MockCluster.Kv

open MockCluster.Script (Memory)

namespace Builtin

variable {credentials : Credentials} {p : Packet}

/-- No service is for a request of the extended layout. -/
theorem service?_withFraming (credentials : Credentials) (p : Packet) (framing : Bytes) :
    service? credentials (p.withFraming framing) = none := by
  have extended (m : Magic) : Magic.make m.isRequest true ≠ .req := by cases m <;> decide
  exact if_neg (extended p.magic)

/-- A plain request is for a service unless none has its operation. -/
theorem service?_eq_none_iff (credentials : Credentials) (plain : p.magic = .req) :
    service? credentials p = none ↔ ∀ b ∈ all credentials, b.command ≠ p.command := by
  rw [← Option.toList_eq_nil_iff, ← filter_matches, List.filter_eq_nil_iff]
  simp [rule, Matcher.matches, plain, @eq_comm Command p.command]

end Builtin

section Framed

variable {credentials : Credentials} {client : Client Handler} {shared : Shared Handler Memory} {p : Packet}

/-- Only a request that is for no service is not answered, and it leaves the connection as it was. -/
theorem Client.unanswered_iff (client : Client Handler) (topology : Topology) (p : Packet) :
    client.replyTo? credentials topology p = none ∧ client.afterRequest credentials topology p = client ↔
      Builtin.service? credentials p = none := by
  unfold Client.replyTo? Client.afterRequest
  cases Builtin.service? credentials p <;> simp

/-- **When framing extras do not matter.** Let the built-in services be all that is registered. Whatever framing extras
a request is given, it is not answered and the connection stays as it was. So the plain request and the one with framing
extras lead to the same response and the same state of the connection if and only if the operation has no built-in
service. -/
theorem framed_alike_iff (offers : shared.OffersBuiltins credentials) (own : client.own.entries = [])
    (plain : p.magic = .req) (framing : Bytes) :
    ∃ ex framed,
      dispatch Handler.behaviour (.start client shared) p = .returned ex (.ok ex.response.isSome) ∧
      dispatch Handler.behaviour (.start client shared) (p.withFraming framing) = .returned framed (.ok false) ∧
      framed.response = none ∧ framed.client = client ∧
      (ex.response = framed.response ∧ ex.client = framed.client ↔
        ∀ b ∈ Builtin.all credentials, b.command ≠ p.command) := by
  obtain ⟨defaults, -, dispatched⟩ := dispatch_builtins offers own p
  obtain ⟨defaults', -, dispatched'⟩ := dispatch_builtins offers own (p.withFraming framing)
  have unanswered := (Client.unanswered_iff client shared.topology (p.withFraming framing)).2
    (Builtin.service?_withFraming credentials p framing)
  rw [unanswered.1, unanswered.2] at dispatched'
  refine ⟨_, _, dispatched, dispatched', rfl, rfl, ?_⟩
  rw [← Builtin.service?_eq_none_iff credentials plain]
  exact Client.unanswered_iff client shared.topology p

/-- A plain request selects the bucket; with framing extras it is not answered, and no bucket is selected. -/
theorem framed_alike_iff_selecting :
    let t := Topology.mutateAll [.addNode "a" [.kv], .addBucket ⟨"x", 0, 1, none⟩] .initial
    let client : Client Handler := .create 1 0
    let shared : Shared Handler Memory := ⟨.empty, Builtin.registerAll .standard .builtin .empty, t, .empty⟩
    let p : Packet := { Packet.request .selectBucket with key := Utf8.encode "x" }
    ∃ ex framed,
      dispatch Handler.behaviour (.start client shared) p = .returned ex (.ok true) ∧
      dispatch Handler.behaviour (.start client shared) (p.withFraming [0]) = .returned framed (.ok false) ∧
      ex.client.bucket = some "x" ∧ framed.client.bucket = none ∧
      ¬(ex.response = framed.response ∧ ex.client = framed.client) := by
  intro t client shared p
  obtain ⟨ex, framed, dispatched, dispatched', -, unchanged, alike⟩ :=
    @framed_alike_iff .standard client shared p (offersBuiltins_registerAll .standard t .empty) rfl rfl [0]
  have selected : (dispatch Handler.behaviour (.start client shared) p).world.client.bucket = some "x" := by
    decide +kernel
  have answered : (dispatch Handler.behaviour (.start client shared) p).world.response.isSome = true := by
    decide +kernel
  rw [dispatched] at selected answered
  have handled : ex.response.isSome = true := answered
  rw [handled] at dispatched
  refine ⟨ex, framed, dispatched, dispatched', selected, ?_, fun same => ?_⟩
  · rw [unchanged]
    rfl
  · exact alike.1 same .selectBucket (by decide) rfl

/-- A client asks for alternative requests, and HELLO agrees. Then it gets an answer to NOOP, but none to the same
request with framing extras. -/
theorem noop_framed_unanswered :
    let shared : Shared Handler Memory := ⟨.empty, Builtin.registerAll .standard .builtin .empty, .initial, .empty⟩
    let hello : Packet := { Packet.request .hello with value := [0, 0x10] }
    let agreed := (dispatch Handler.behaviour (.start (.create 1 0) shared) hello).world
    let noop : Packet := { Packet.request .noop with opaqueId := 7 }
    let answer (p : Packet) := (dispatch Handler.behaviour (.start agreed.client agreed.shared) p).world.response
    agreed.client.features = [.altRequests] ∧ agreed.response.map (·.value) = some [0, 0x10] ∧
      answer noop = some noop.responseTo ∧ answer (noop.withFraming [0]) = none := by
  decide +kernel

end Framed

end MockCluster.Kv
