import MockCluster.Kv.World
import MockCluster.Proofs.Dispatch.Conduct
import Mathlib.Data.List.DropRight

/-!
# The response of a dispatch

Handlers write responses and take them back, before and after they forward a packet, and each may go on when one behind
it has failed. All they did to the response, in the order in which they did it, is a list of touches, and the list alone
says which response is held (`Touch.held`): the first packet that was written since the last one was taken back.

`Conduct.watch` does what `Conduct.run` does, and keeps the touches on the side. The same chain can so be run with a
record of them (`watchedChain`), which changes nothing (`through_watchedChain`). What one step keeps is
`Watched.Accounts`: the record explains the response that is held and all that handlers were told. `dispatch_response`
says what this makes of a whole dispatch.
-/

namespace MockCluster.Kv

variable {H M A : Type}

/-- What a handler did to the response, and what it was told. -/
inductive Touch where
  /-- It wrote a packet. -/
  | wrote (p : Packet) (result : Except Fault Unit)
  /-- It took the response back. -/
  | took (taken : Option Packet)

namespace Touch

/-- The packet that was written. -/
def packet? : Touch → Option Packet
  | wrote p _ => some p
  | took _ => none

/-- The first packet that was written since the response was last taken back. -/
def held (touches : List Touch) : Option Packet :=
  (touches.rtakeWhile (·.packet?.isSome)).findSome? packet?

/-- The handler was told the truth about the response that was held then: a packet may be written if there is none, and
what is taken is what there is. -/
def Fits (response : Option Packet) : Touch → Prop
  | wrote _ result => result = response.elim (.ok ()) fun held => .error (.responseAlreadyWritten held.opaqueId)
  | took taken => taken = response

theorem held_append_took (touches : List Touch) (taken : Option Packet) : held (touches ++ [took taken]) = none := by
  rw [held, List.rtakeWhile_concat_neg _ _ _ (by simp [packet?])]
  rfl

theorem held_append_wrote (touches : List Touch) (p : Packet) (result : Except Fault Unit) :
    held (touches ++ [wrote p result]) = (held touches).or (some p) := by
  rw [held, List.rtakeWhile_concat_pos _ _ _ (by simp [packet?]), List.findSome?_append]
  rfl

end Touch

/-- An exchange, with a record of what was done to its response. -/
structure Watched (H M : Type) where
  exchange : Exchange H M
  touches : List Touch

/-- The record explains the exchange. -/
structure Watched.Accounts (w : Watched H M) : Prop where
  response : w.exchange.response = Touch.held w.touches
  fits : ∀ before touch after, w.touches = before ++ touch :: after → touch.Fits (Touch.held before)

namespace Watched.Accounts

variable {w : Watched H M}

theorem start (client : Client H) (shared : Shared H M) : Accounts ⟨.start client shared, []⟩ where
  response := rfl
  fits before touch after split := by simp at split

/-- What does not touch the response needs no record. -/
theorem alter (h : w.Accounts) {ex : Exchange H M} (same : ex.response = w.exchange.response) :
    Accounts { w with exchange := ex } where
  response := same.trans h.response
  fits := h.fits

theorem touch (h : w.Accounts) {touch : Touch} (fits : touch.Fits w.exchange.response) {ex : Exchange H M}
    (response : ex.response = Touch.held (w.touches ++ [touch])) : Accounts ⟨ex, w.touches ++ [touch]⟩ where
  response := response
  fits before other after split := by
    rcases List.eq_nil_or_concat after with rfl | ⟨behind, last, rfl⟩
    · obtain ⟨rfl, same⟩ := List.append_inj' split rfl
      obtain rfl := List.singleton_inj.1 same
      rwa [← h.response]
    · rw [List.concat_eq_append, ← List.cons_append, ← List.append_assoc] at split
      exact h.fits before other behind (List.append_inj' split rfl).1

end Watched.Accounts

namespace Conduct

/-- What the steps make of an exchange, with a record of what they do to its response. -/
def watch : Conduct H M A → Watched H M → Outcome (Watched H M) A
  | stop word, w => .returned w word
  | panic message, w => .panicked w message
  | write p goOn, w =>
    match w.exchange.write p with
    | .ok next => (goOn (.ok ())).watch ⟨next, w.touches ++ [.wrote p (.ok ())]⟩
    | .error fault => (goOn (.error fault)).watch ⟨w.exchange, w.touches ++ [.wrote p (.error fault)]⟩
  | take goOn, w =>
    (goOn w.exchange.response).watch ⟨w.exchange.takeResponse, w.touches ++ [.took w.exchange.response]⟩
  | alter change _ goOn, w => (goOn w.exchange).watch { w with exchange := change w.exchange }

/-- The record is kept on the side. -/
theorem through_watch (c : Conduct H M A) (w : Watched H M) :
    (c.watch w).through Watched.exchange = c.run w.exchange := by
  induction c generalizing w with
  | stop | panic => rfl
  | write p goOn ih =>
    simp only [watch, run]
    cases w.exchange.write p with
    | ok next => exact ih _ _
    | error fault => exact ih _ _
  | take goOn ih => exact ih _ _
  | alter change keeps goOn ih => exact ih _ _

/-- Every step keeps the record true. -/
theorem accounts_watch (c : Conduct H M A) {w : Watched H M} (h : w.Accounts) : (c.watch w).world.Accounts := by
  induction c generalizing w with
  | stop | panic => exact h
  | write p goOn ih =>
    simp only [watch, Exchange.write]
    cases held : w.exchange.response with
    | none =>
      refine ih _ (h.touch (by rw [held]; rfl) ?_)
      rw [Touch.held_append_wrote, ← h.response, held]
      rfl
    | some response =>
      refine ih _ (h.touch (by rw [held]; rfl) ?_)
      rw [Touch.held_append_wrote, ← h.response, held]
      rfl
  | take goOn ih =>
    have fits : (Touch.took w.exchange.response).Fits w.exchange.response := rfl
    exact ih _ (h.touch fits (Touch.held_append_took ..).symm)
  | alter change keeps goOn ih => exact ih _ (h.alter (keeps w.exchange))

/-- A packet that is written while a response is held is refused, and nothing changes. -/
theorem run_write_of_held {ex : Exchange H M} {held : Packet} (h : ex.response = some held) (p : Packet)
    (goOn : Except Fault Unit → Conduct H M A) :
    (write p goOn).run ex = (goOn (.error (.responseAlreadyWritten held.opaqueId))).run ex := by
  simp only [run, Exchange.write, h]

end Conduct

/-- What a dispatch says, from how its first handler ended: whether a response is held if it did not fail, and else its
fault. -/
theorem map_isSome_cases (own : Outcome (Exchange H M) (Except Fault Unit)) (ex : Exchange H M) :
    let said := own.map fun ex result => result.map fun _ => ex.response.isSome
    (said = .returned ex (.ok true) ↔ own = .returned ex (.ok ()) ∧ ex.response.isSome) ∧
    (said = .returned ex (.ok false) ↔ own = .returned ex (.ok ()) ∧ ex.response = none) ∧
    (∀ fault, said = .returned ex (.error fault) ↔ own = .returned ex (.error fault)) ∧
    ∀ message, said = .panicked ex message ↔ own = .panicked ex message := by
  cases own with
  | panicked => simp [Outcome.map]
  | returned ex' result =>
    cases result with
    | error => simp [Outcome.map, Except.map]
    | ok =>
      by_cases same : ex' = ex
      · subst same
        simp [Outcome.map, Except.map]
      · simp [Outcome.map, same]

section Chain

variable (conduct : H → Nat → Packet → Conduct H M (Halt H M))

/-- How candidates are claimed and invoked, with a record of what they do to the response. -/
def watchedChain : Chain (Candidate H) (Watched H M) Packet (Except Fault Unit) where
  claim c w := (c.claim w.exchange).map fun ex => { w with exchange := ex }
  invoke c remaining w p := Halt.reply Conduct.watch ((conduct c.entry.content.handler remaining p).watch w)
  unanswered := .ok ()

/-- The record of a chain changes nothing. -/
theorem through_watchedChain (cs : List (Candidate H)) (w : Watched H M) (p : Packet) :
    ((watchedChain conduct).run cs w p).through Watched.exchange =
      (chain (Conduct.behaviour conduct)).run cs w.exchange p := by
  refine Chain.through_run Watched.exchange (fun c w => ?_) (fun c remaining w p => ?_) rfl cs w p
  · simp only [watchedChain, chain, Option.map_map]
    exact Option.map_id'
  · simp only [watchedChain, chain, Conduct.behaviour, ← Conduct.through_watch]
    cases (conduct c.entry.content.handler remaining p).watch w with
    | panicked => exact .finished _
    | returned w halt =>
      cases halt with
      | finish => exact .finished _
      | forward q goOn => exact .forward w q fun back result => (goOn result).through_watch back

theorem Candidate.response_of_claim {c : Candidate H} {ex claimed : Exchange H M} (h : c.claim ex = some claimed) :
    claimed.response = ex.response := by
  obtain ⟨s, -, rfl⟩ := Option.map_eq_some_iff.1 h
  cases c.layer <;> rfl

theorem accounts_watchedChain {w : Watched H M} (h : w.Accounts) (cs : List (Candidate H)) (p : Packet) :
    ((watchedChain conduct).run cs w p).world.Accounts := by
  refine Chain.keeps_run (fun granted accounts => ?_) (fun c remaining w p => ?_) h
  · obtain ⟨ex, claimed, rfl⟩ := Option.map_eq_some_iff.1 granted
    exact accounts.alter (Candidate.response_of_claim claimed)
  · have kept := (conduct c.entry.content.handler remaining p).accounts_watch (w := w)
    simp only [watchedChain]
    cases watched : (conduct c.entry.content.handler remaining p).watch w with
    | panicked =>
      rw [watched] at kept
      exact kept
    | returned next halt =>
      rw [watched] at kept
      cases halt with
      | finish => exact kept
      | forward q goOn => exact ⟨kept, fun back result => (goOn result).accounts_watch⟩

/-- If no response is held yet, it makes no difference to a dispatch whether there are no candidates or none of them is
invoked. -/
theorem dispatch_of_unanswered (behaviour : Behaviour H M) {ex : Exchange H M} (unanswered : ex.response = none)
    (p : Packet) :
    dispatch behaviour ex p = ((chain behaviour).run (ex.candidates p) ex p).map fun ex result =>
      result.map fun _ => ex.response.isSome := by
  rw [dispatch_eq]
  split
  · rename_i none
    rw [none, Chain.run_nil, Outcome.map, unanswered]
    rfl
  · rfl

/-- **Which response a dispatch leaves, and what it says about it.** Let handlers write, take back, fail and forward in
any way, and let no response be held when the packet comes in. The record of what they do to the response belongs to
this very dispatch. It leaves the first packet that was written since the response was last taken back. Whoever wrote
while a response was held was told so, with its correlation number, and went on from the same exchange. If no handler
was invoked, the dispatch says that there is no response. Else the first one decides: if it did not fail, the dispatch
says whether a response is held at the end, and if it did, the dispatch fails as it did and leaves what is held. -/
theorem dispatch_response (client : Client H) (shared : Shared H M) (p : Packet) :
    let start := Exchange.start client shared
    let behaviour := Conduct.behaviour conduct
    let dispatched := dispatch behaviour start p
    let watched := (watchedChain conduct).run (start.candidates p) ⟨start, []⟩ p
    watched.through Watched.exchange = (chain behaviour).run (start.candidates p) start p ∧
    dispatched.world.response = Touch.held watched.world.touches ∧
    (∀ before touch after, watched.world.touches = before ++ touch :: after → touch.Fits (Touch.held before)) ∧
    (∀ {A : Type} (ex : Exchange H M) held q (goOn : Except Fault Unit → Conduct H M A), ex.response = some held →
      (Conduct.write q goOn).run ex = (goOn (.error (.responseAlreadyWritten held.opaqueId))).run ex) ∧
    ((∀ c ∈ start.candidates p, c.claim start = none) ∧ dispatched = .returned start (.ok false) ∨
      ∃ passed c rest claimed, start.candidates p = passed ++ c :: rest ∧ (∀ d ∈ passed, d.claim start = none) ∧
        c.claim start = some claimed ∧
        let own := (behaviour c.entry.content.handler rest.length claimed p).outcome ((chain behaviour).run rest)
        ∀ ex,
          (dispatched = .returned ex (.ok true) ↔ own = .returned ex (.ok ()) ∧ ex.response.isSome) ∧
          (dispatched = .returned ex (.ok false) ↔ own = .returned ex (.ok ()) ∧ ex.response = none) ∧
          (∀ fault, dispatched = .returned ex (.error fault) ↔ own = .returned ex (.error fault)) ∧
          ∀ message, dispatched = .panicked ex message ↔ own = .panicked ex message) := by
  intro start behaviour dispatched watched
  have seen : watched.through Watched.exchange = (chain behaviour).run (start.candidates p) start p :=
    through_watchedChain conduct _ _ p
  have accounts : watched.world.Accounts := accounts_watchedChain conduct (.start client shared) _ p
  have mapped : dispatched = ((chain behaviour).run (start.candidates p) start p).map fun ex result =>
      result.map fun _ => ex.response.isSome := dispatch_of_unanswered behaviour rfl p
  have world : dispatched.world = watched.world.exchange := by
    rw [mapped, ← watched.world_through Watched.exchange, seen]
    cases (chain behaviour).run (start.candidates p) start p <;> rfl
  refine ⟨seen, world ▸ accounts.response, accounts.fits,
    fun ex held q goOn h => Conduct.run_write_of_held h q goOn, ?_⟩
  obtain ⟨refused, run⟩ | ⟨passed, c, rest, claimed, split, refused, granted, run⟩ :=
    (chain behaviour).run_cases (start.candidates p) start p
  · refine .inl ⟨refused, ?_⟩
    rw [mapped, run]
    rfl
  · refine .inr ⟨passed, c, rest, claimed, split, refused, granted, fun ex => ?_⟩
    rw [mapped, run]
    exact map_isSome_cases _ ex

/-- The newer handler forwards the packet, ignores that the older one fails in the end, and cannot write over what that
one has written. -/
example :
    let noop : Matcher := ⟨.req, .noop, none, none, none, none⟩
    let busy : PacketPatch := { (default : PacketPatch) with status := some .busy }
    let older : Script := [(.write busy 0, false), (.fail "late", false)]
    let newer : Script := [(.next default, true), (.write default 0, true)]
    let overrides := ((Scope.empty.register none ⟨noop, .script older⟩).2.register none ⟨noop, .script newer⟩).2
    let ex : ScriptExchange := .start (.create 1 0) ⟨overrides, .empty, .initial, .empty⟩
    let answer := (World.answerOf (dispatch Handler.behaviour ex (.request .noop))).1
    answer.result = .ok (.ok true) ∧ answer.response.map (·.status) = some .busy := by
  decide +kernel

end Chain

end MockCluster.Kv
