import MockCluster.Proofs.Dispatch.Order
import MockCluster.Proofs.Dispatch.Routes
import MockCluster.Proofs.Expectation.Handles

/-!
# Registrations

Expectations for packets and expectations for requests are registered, removed and cleared in scopes of the same kind.
What differs is how an expectation is described, and when the description is complete:

| expectations | needed | scopes |
| --- | --- | --- |
| for packets | direction and operation | one of each connection, overrides, defaults |
| for requests | a path | overrides, defaults |

In both cases a call goes to one scope and leaves the others alone (`CallsAt`). So whatever holds of the calls to a
scope holds of both kinds of expectations (`handles_of_calls`).
-/

namespace MockCluster

open Call (accepted counter issued)

/-- One of several scopes is called: the answer is its answer, and no other scope changes. -/
structure CallsAt {P α : Type} [DecidableEq P] (place : P) (call : Call α) (scope : P → Scope α)
    (answer : Except Fault Script.Managed) (scope' : P → Scope α) : Prop where
  answer_eq : answer = ((scope place).call call).1
  scope_eq : scope' = Function.update scope place ((scope place).call call).2

namespace Kv

/-- What a script asks of which scope. Handles are remembered under names, and a script knows the names. -/
def Manage.call? (handles : NameMap Nat) : Manage Script → Option (Layer × Call (Rule Handler))
  | register layer draft _ script =>
    some (layer, .register draft.limit (draft.matcher.map fun matcher => ⟨matcher, .script script⟩))
  | remove layer name => (handles.get? name).map fun handle => (layer, .remove handle)
  | clear layer => some (layer, .clear)
  | count _ => none

theorem Draft.matcher_eq_error_iff {d : Draft} {fault : Fault} :
    d.matcher = .error fault ↔
      (d.magic = none ∨ d.command = none) ∧ fault = .incompleteExpectation "magic and cmd are required" := by
  unfold matcher
  cases d.magic <;> cases d.command <;> simp [eq_comm]

theorem Manage.callsAt_run {request : Manage Script} {ex : ScriptExchange} {layer : Layer} {call : Call (Rule Handler)}
    (asks : request.call? ex.shared.memory.packets.handles = some (layer, call)) :
    CallsAt layer call ex.scope (request.run ex).1 (request.run ex).2.scope := by
  cases request with
  | register layer' draft name script =>
    obtain ⟨rfl, rfl⟩ := Prod.mk.inj (Option.some.inj asks)
    simp only [Manage.run]
    cases draft.matcher with
    | error fault => exact ⟨rfl, (Function.update_eq_self layer' ex.scope).symm⟩
    | ok matcher => exact ⟨rfl, ex.scope_setScope layer' _⟩
  | remove layer' name =>
    obtain ⟨handle, found, same⟩ := Option.map_eq_some_iff.1 asks
    obtain ⟨rfl, rfl⟩ := Prod.mk.inj same
    simp only [Manage.run, found]
    exact ⟨rfl, ex.scope_setScope layer' _⟩
  | clear layer' =>
    obtain ⟨rfl, rfl⟩ := Prod.mk.inj (Option.some.inj asks)
    exact ⟨rfl, ex.scope_setScope layer' _⟩
  | count => cases asks

end Kv

namespace Http

/-- What a script asks of which scope. -/
def Manage.call? (handles : NameMap Nat) : Manage Script → Option (Layer × Call (Rule Handler))
  | register layer draft _ script => some (layer, .register draft.limit (draft.rule (.script script)))
  | remove layer name => (handles.get? name).map fun handle => (layer, .remove handle)
  | clear layer => some (layer, .clear)
  | count _ => none

theorem Draft.rule_eq_error_iff {H : Type} {d : Draft} {handler : H} {fault : Fault} :
    d.rule handler = .error fault ↔ d.path = none ∧ fault = .incompleteExpectation "path is required" := by
  unfold rule
  cases d.path <;> simp [eq_comm]

theorem Manage.callsAt_run {request : Manage Script} {w : ScriptWorld} {layer : Layer} {call : Call (Rule Handler)}
    (asks : request.call? w.memory.requests.handles = some (layer, call)) :
    CallsAt layer call w.scope (request.run w).1 (request.run w).2.scope := by
  cases request with
  | register layer' draft name script =>
    obtain ⟨rfl, rfl⟩ := Prod.mk.inj (Option.some.inj asks)
    simp only [Manage.run]
    cases draft.rule (Handler.script script) with
    | error fault => exact ⟨rfl, (Function.update_eq_self layer' w.scope).symm⟩
    | ok rule => exact ⟨rfl, w.scope_setScope layer' _⟩
  | remove layer' name =>
    obtain ⟨handle, found, same⟩ := Option.map_eq_some_iff.1 asks
    obtain ⟨rfl, rfl⟩ := Prod.mk.inj same
    simp only [Manage.run, found]
    exact ⟨rfl, w.scope_setScope layer' _⟩
  | clear layer' =>
    obtain ⟨rfl, rfl⟩ := Prod.mk.inj (Option.some.inj asks)
    exact ⟨rfl, w.scope_setScope layer' _⟩
  | count => cases asks

end Http

/-- **Handles.** Whatever was called of a scope, in any order and with any numbers, the handles that it lists ascend and
are all below the next one. The handles it has given are the numbers from one on, without a gap, one for each accepted
registration, so that none was ever given twice; a counter of 64 bits has the next one, as long as there were fewer than
2^64 - 1 registrations. What is listed is what was registered and not removed since. And whatever is called now, it does
what it says: a registration that is rejected changes nothing at all, and a removal answers whether there is an entry
with this handle, and then removes this one entry from its place and no other.

Scripts that register, remove and clear expectations for packets or for requests do it by such calls. -/
theorem handles_of_calls {α : Type} {calls : List (Call α)} (few : accepted calls < 2 ^ 64 - 1) :
    let answers := ((Scope.empty : Scope α).callAll calls).1
    let s := ((Scope.empty : Scope α).callAll calls).2
    s.handles.Pairwise (· < ·) ∧ (∀ handle ∈ s.handles, handle < s.next) ∧
      issued answers = List.range' 1 (accepted calls) ∧ (issued answers).Nodup ∧ (counter calls).toNat = s.next ∧
      (∀ e, e ∈ s.entries ↔ ∃ behind, e.RegisteredBefore behind calls ∧ ∀ call ∈ behind, call.Spares e.handle) ∧
      (∀ call, s.Takes call (s.call call).1 (s.call call).2) ∧
      (∀ (request : Kv.Manage Kv.Script) (ex : Kv.ScriptExchange) layer call,
        request.call? ex.shared.memory.packets.handles = some (layer, call) →
        CallsAt layer call ex.scope (request.run ex).1 (request.run ex).2.scope) ∧
      (∀ (d : Kv.Draft) fault, d.matcher = .error fault ↔
        (d.magic = none ∨ d.command = none) ∧ fault = .incompleteExpectation "magic and cmd are required") ∧
      (∀ (request : Http.Manage Http.Script) (w : Http.ScriptWorld) layer call,
        request.call? w.memory.requests.handles = some (layer, call) →
        CallsAt layer call w.scope (request.run w).1 (request.run w).2.scope) ∧
      ∀ (d : Http.Draft) (handler : Http.Handler) fault, d.rule handler = .error fault ↔
        d.path = none ∧ fault = .incompleteExpectation "path is required" := by
  intro answers s
  have numbers : issued answers = List.range' 1 (accepted calls) := Scope.issued_callAll .empty calls
  refine ⟨s.ascending, fun handle listed => ?_, numbers, numbers ▸ List.nodup_range', ?_,
    fun e => Scope.mem_entries_callAll, s.takes_call, fun _ _ _ _ => Kv.Manage.callsAt_run,
    fun _ _ => Kv.Draft.matcher_eq_error_iff, fun _ _ _ _ => Http.Manage.callsAt_run,
    fun _ _ _ => Http.Draft.rule_eq_error_iff⟩
  · obtain ⟨e, he, rfl⟩ := Scope.mem_handles.1 listed
    exact s.given e he
  · exact (Call.toNat_counter few).trans (Scope.next_callAll .empty calls).symm

/-- The second registration is rejected, and the entry of the first one is removed, the second time in vain. The last
registration gets a handle of its own all the same. -/
theorem handles_of_calls_removed :
    let fault := Fault.incompleteExpectation "path is required"
    let calls : List (Call Char) :=
      [.register none (.ok 'a'), .register none (.error fault), .register (some 2) (.ok 'b'), .remove 1, .remove 1,
        .register none (.ok 'c')]
    let answers := (Scope.empty.callAll calls).1
    let s := (Scope.empty.callAll calls).2
    accepted calls < 2 ^ 64 - 1 ∧ issued answers = [1, 2, 3] ∧ (counter calls).toNat = s.next ∧
      ⟨2, some 2, 'b'⟩ ∈ s.entries ∧ s.Takes (.remove 1) (s.call (.remove 1)).1 (s.call (.remove 1)).2 ∧
      (∀ ex : Kv.ScriptExchange, ((Kv.Manage.clear .overrides).run ex).2.shared.overrides = ex.shared.overrides.clear) ∧
      ∀ w : Http.ScriptWorld, ((Http.Manage.clear .overrides).run w).2.overrides = w.overrides.clear := by
  intro fault calls answers s
  have few : accepted calls < 2 ^ 64 - 1 := by decide
  obtain ⟨-, -, issued, -, counted, listed, takes, packets, -, requests, -⟩ := handles_of_calls few
  have second : (⟨2, some 2, 'b'⟩ : Entry Char).RegisteredBefore
      [.remove 1, .remove 1, .register none (.ok 'c')] calls :=
    ⟨[.register none (.ok 'a'), .register none (.error fault)], rfl, rfl⟩
  have spared : ∀ call ∈ [.remove 1, .remove 1, .register none (.ok 'c')], Call.Spares call 2 := by simp [Call.Spares]
  refine ⟨few, issued, counted, (listed _).2 ⟨_, second, spared⟩, takes (.remove 1), fun ex => ?_, fun w => ?_⟩
  · exact congrFun (packets (.clear .overrides) ex _ _ rfl).scope_eq .overrides
  · exact congrFun (requests (.clear .overrides) w _ _ rfl).scope_eq .overrides

end MockCluster
