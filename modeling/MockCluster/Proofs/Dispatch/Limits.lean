import MockCluster.Kv.World
import MockCluster.Proofs.Dispatch.Order
import MockCluster.Proofs.Expectation.History

/-!
# Limits of packet expectations

Packet expectations stand in the scopes of all connections, in the overrides and in the defaults (`Place`). Handlers may
do with them what anybody may do, in any scope: register, remove, clear, and dispatch further packets on any connection
while their own is under way. So what a handler does is itself a history of expectations (`Behaviour.Acts`), and then a
whole dispatch is one (`dispatch_history`): it collects candidates, claims one after another, and the histories of the
handlers run in between.

An expectation that is limited to `n` firings is invoked `n` times at most along every such history, whoever reaches it,
and it has left its scope when its last invocation begins (`fires_within_limit`).
-/

namespace MockCluster.Kv

open Registry (Step History Counted)

variable {H M : Type}

/-- Where packet expectations stand. -/
inductive Place where
  | connection (id : ConnectionId)
  | overrides
  | defaults
  deriving DecidableEq, Repr

/-- The place of a layer, seen from a connection. -/
def Layer.place (id : ConnectionId) : Layer → Place
  | .connection => .connection id
  | .overrides => .overrides
  | .defaults => .defaults

/-- All scopes as they are found during a request on a connection. Those of other connections may be kept anywhere where
handlers can reach them. -/
structure View (H M : Type) (id : ConnectionId) where
  scope : Exchange H M → Place → Scope (Rule H)
  scope_place : ∀ ex layer, scope ex (layer.place id) = ex.scope layer
  scope_setScope : ∀ ex layer s, scope (ex.setScope layer s) = Function.update (scope ex) (layer.place id) s

variable {id : ConnectionId}

namespace View

/-- The scopes, with the candidates of requests under way. -/
def registry (view : View H M id) (ex : Exchange H M) (chains : List (List (Place × Entry (Rule H)))) :
    Registry Place (Rule H) := ⟨view.scope ex, chains⟩

/-- The exchange changes by things that happen to expectations, whatever requests are under way; all else may change in
any way. -/
def Acts (view : View H M id) (ex ex' : Exchange H M) : Prop :=
  ∀ chains, ∃ es, History (view.registry ex chains) es (view.registry ex' chains)

/-- The scopes of the other connections are out of reach: they stay what they are. -/
def among (others : ConnectionId → Scope (Rule H)) (id : ConnectionId) : View H M id where
  scope ex
    | .connection other => if other = id then ex.client.own else others other
    | .overrides => ex.shared.overrides
    | .defaults => ex.shared.defaults
  scope_place ex layer := by cases layer <;> simp [Layer.place, Exchange.scope]
  scope_setScope ex layer s := by
    funext place
    rw [Function.update_apply]
    cases layer <;> cases place <;> simp only [Layer.place, Exchange.setScope, reduceCtorEq, if_false,
      Place.connection.injEq, if_true]
    split <;> rfl

end View

/-- Handlers that touch the scopes only in the ways open to everybody. -/
def Behaviour.Acts (behaviour : Behaviour H M) (view : View H M id) : Prop :=
  ∀ handler remaining ex p, (behaviour handler remaining ex p).Within view.Acts ex

namespace Candidate

/-- A candidate as it is held by a request on a connection. -/
def held (id : ConnectionId) (c : Candidate H) : Place × Entry (Rule H) := (c.layer.place id, c.entry)

/-- What happens when a request on a connection reaches a candidate, from the word whether its handler forwarded the
request if it was invoked at all. -/
def event (id : ConnectionId) (c : Candidate H) : Option Bool → Event Place
  | none => .refused (c.layer.place id) c.entry.handle
  | some _ => .invoked (c.layer.place id) c.entry.handle

end Candidate

section Dispatch

variable {view : View H M id} {behaviour : Behaviour H M} {ex : Exchange H M} {c : Candidate H}
  {rest : List (Candidate H)} {chains : List (List (Place × Entry (Rule H)))}

theorem View.claimsIn (view : View H M id) :
    ClaimsIn (Candidate.claim : Candidate H → Exchange H M → _) view.scope (fun c => c.layer.place id)
      Candidate.entry := by
  intro c ex
  rw [Candidate.claim, Option.map_map, view.scope_place]
  exact congrArg (Option.map · _) (funext fun s => view.scope_setScope ex c.layer s)

theorem step_refused (refused : c.claim ex = none) :
    Step (view.registry ex ((c :: rest).map (Candidate.held id) :: chains)) (c.event id none)
      (view.registry ex (rest.map (Candidate.held id) :: chains)) :=
  view.claimsIn.step_refused refused

theorem step_invoked {claimed : Exchange H M} (granted : c.claim ex = some claimed) (forwarded : Bool) :
    Step (view.registry ex ((c :: rest).map (Candidate.held id) :: chains)) (c.event id (some forwarded))
      (view.registry claimed (rest.map (Candidate.held id) :: chains)) :=
  view.claimsIn.step_invoked granted

theorem world_dispatch (behaviour : Behaviour H M) (ex : Exchange H M) (p : Packet) :
    (dispatch behaviour ex p).world = ((chain behaviour).run (ex.candidates p) ex p).world := by
  rw [dispatch_eq]
  split
  · rename_i none
    rw [none]
    rfl
  · cases (chain behaviour).run (ex.candidates p) ex p <;> rfl

/-- **A dispatch is a history.** It begins, reaches one candidate after another, and ends. -/
theorem dispatch_history (acts : behaviour.Acts view) (ex : Exchange H M) (p : Packet)
    (chains : List (List (Place × Entry (Rule H)))) :
    ∃ reached outcome es,
      (chain behaviour).Reaches (ex.candidates p) ex p reached outcome ∧
      History (view.registry ex chains) es (view.registry (dispatch behaviour ex p).world chains) ∧
      (reached.map fun c => c.1.event id c.2).Sublist es := by
  obtain ⟨reached, run⟩ := (chain behaviour).reaches_run (ex.candidates p) ex p
  have within (c : Candidate H) (remaining : Nat) (ex : Exchange H M) (p : Packet) :
      ((chain behaviour).invoke c remaining ex p).Within (ActsIn view.scope) ex :=
    acts c.entry.content.handler remaining ex p
  have listed (c : Candidate H) (matching : c ∈ ex.candidates p) :
      c.entry ∈ (view.scope ex (c.layer.place id)).entries := by
    rw [view.scope_place]
    exact (Exchange.mem_candidates.1 matching).1
  obtain ⟨es, history, sub⟩ := view.claimsIn.exists_history within listed run chains
  have events : (fun c : Candidate H × Option Bool => Event.reached (c.1.layer.place id) c.1.entry.handle c.2) =
      fun c => c.1.event id c.2 := by
    funext ⟨c, forwarded⟩
    cases forwarded <;> rfl
  rw [events] at sub
  rw [world_dispatch]
  exact ⟨reached, _, es, run, history, sub⟩

/-- A handler may dispatch packets itself. -/
theorem acts_dispatch (acts : behaviour.Acts view) (ex : Exchange H M) (p : Packet) :
    view.Acts ex (dispatch behaviour ex p).world := fun chains => by
  obtain ⟨-, -, es, -, history, -⟩ := dispatch_history acts ex p chains
  exact ⟨es, history⟩

end Dispatch

section Edits

theorem Exchange.Edited.acts {ex ex' : Exchange H M} (edited : ex.Edited ex')
    (others : ConnectionId → Scope (Rule H)) (id : ConnectionId) : (View.among others id).Acts ex ex' := by
  refine EditedIn.acts (fun place => ?_) [.connection id, .overrides, .defaults] fun place elsewhere => ?_
  · cases place with
    | connection other =>
      simp only [View.among]
      split
      · exact edited .connection
      · exact .unchanged
    | overrides => exact edited .overrides
    | defaults => exact edited .defaults
  · cases place with
    | connection other => simp_all [View.among]
    | _ => simp at elsewhere

/-- Handlers that edit the scopes of their layers act. -/
theorem Behaviour.Edits.acts {behaviour : Behaviour H M} (edits : behaviour.Edits)
    (others : ConnectionId → Scope (Rule H)) (id : ConnectionId) : behaviour.Acts (.among others id) :=
  fun handler remaining ex p => (edits handler remaining ex p).imp fun edited => edited.acts others id

end Edits

namespace World

/-- The expectations of a connection. -/
def own (w : World H M) (index : Nat) : Scope (Rule H) := (w.clients[index]?.map Client.own).getD .empty

/-- All scopes. -/
def scope (w : World H M) : Place → Scope (Rule H)
  | .connection index => w.own index
  | .overrides => w.shared.overrides
  | .defaults => w.shared.defaults

theorem scope_among_start {w : World H M} {index : Nat} {client : Client H} (hc : w.clients[index]? = some client) :
    (View.among w.own index).scope (.start client w.shared) = w.scope := by
  funext place
  cases place with
  | connection other =>
    by_cases ho : other = index
    · subst ho
      simp [View.among, scope, own, Exchange.start, hc]
    · simp [View.among, scope, ho]
  | _ => rfl

theorem scope_put {w : World H M} {index : Nat} (hi : index < w.clients.length) (ex : Exchange H M) :
    (w.put index ex).scope = (View.among w.own index).scope ex := by
  funext place
  cases place with
  | connection other =>
    by_cases ho : other = index
    · subst ho
      simp [View.among, scope, own, put, hi]
    · simp [View.among, scope, own, put, ho, Ne.symm ho]
  | _ => rfl

/-- **A dispatch on one of several connections is a history of them all.** -/
theorem dispatch_history {behaviour : Behaviour H M} {w w' : World H M} {index : Nat} {p : Packet} {answer : Answer}
    (acts : behaviour.Acts (.among w.own index)) (h : w.dispatch behaviour index p = some (answer, w'))
    (chains : List (List (Place × Entry (Rule H)))) :
    ∃ es, History (⟨w.scope, chains⟩ : Registry Place (Rule H)) es ⟨w'.scope, chains⟩ := by
  obtain ⟨client, hc, he⟩ := Option.map_eq_some_iff.1 h
  obtain ⟨rfl, rfl⟩ := Prod.mk.inj he
  obtain ⟨hi, -⟩ := List.getElem?_eq_some_iff.1 hc
  obtain ⟨es, history⟩ := acts_dispatch acts (.start client w.shared) p chains
  unfold View.registry at history
  rw [scope_among_start hc, ← scope_put hi] at history
  exact ⟨es, history⟩

end World

/-- **Expectations fire within their limits.** Along every history an expectation is invoked as often as a request
reaches it, but not more often than its limit allows. It is listed until it is removed or cleared or its last invocation
begins; who leaves a scope leaves all others there as they are. Requests go on with the history: each claim is a step of
it, after which the handler begins, and so is a whole dispatch with whatever its handlers do, on any of any number of
connections. -/
theorem fires_within_limit {es : List (Event Place)} {r : Registry Place (Rule H)} (h : History .fresh es r) :
    (∀ before since place handle limit, es = before ++ .registered place handle limit :: since →
      Counted r es since place handle limit) ∧
    (∀ e t place handle, Step r e t →
      e = .removed place handle ∨ (e = .invoked place handle ∧ handle ∉ (t.scope place).handles) →
      ∀ other,
        (t.scope other).entries = (r.scope other).entries.filter (fun x => ¬(other = place ∧ x.handle = handle)) ∧
        ∀ handle', ¬(other = place ∧ handle' = handle) →
          (t.scope other).fired handle' = (r.scope other).fired handle') ∧
    (∀ {M : Type} {id : ConnectionId} (view : View H M id) (ex : Exchange H M),
      (∀ (c : Candidate H) rest chains, r = view.registry ex ((c :: rest).map (Candidate.held id) :: chains) →
        match c.claim ex with
        | none => Step r (c.event id none) (view.registry ex (rest.map (Candidate.held id) :: chains))
        | some claimed => ∀ forwarded,
          Step r (c.event id (some forwarded)) (view.registry claimed (rest.map (Candidate.held id) :: chains))) ∧
      ∀ (behaviour : Behaviour H M) p chains, behaviour.Acts view → r = view.registry ex chains →
        ∃ reached outcome es',
          (chain behaviour).Reaches (ex.candidates p) ex p reached outcome ∧
          History .fresh (es ++ es') (view.registry (dispatch behaviour ex p).world chains) ∧
          (reached.map fun c => c.1.event id c.2).Sublist es') ∧
    ∀ {M : Type} (behaviour : Behaviour H M) (w w' : World H M) index p answer chains,
      behaviour.Acts (.among w.own index) → w.dispatch behaviour index p = some (answer, w') → r = ⟨w.scope, chains⟩ →
        ∃ es', History .fresh (es ++ es') (⟨w'.scope, chains⟩ : Registry Place (Rule H)) := by
  refine ⟨?_, fun e t place handle step gone => step.others gone, ?_, ?_⟩
  · rintro before since place handle limit rfl
    exact h.counted
  · intro M id view ex
    refine ⟨?_, ?_⟩
    · rintro c rest chains rfl
      split
      · rename_i refused
        exact step_refused refused
      · rename_i granted
        exact step_invoked granted
    · rintro behaviour p chains acts rfl
      obtain ⟨reached, outcome, es', run, history, sub⟩ := dispatch_history acts ex p chains
      exact ⟨reached, outcome, es', run, h.trans history, sub⟩
  · rintro M behaviour w w' index p answer chains acts dispatched rfl
    obtain ⟨es', history⟩ := World.dispatch_history acts dispatched chains
    exact ⟨es', h.trans history⟩

/-- Two requests have the same expectation before them, which may fire once. The first one invokes it; the second one
passes it over, although it was listed when that request came in. While both are still under way, a third one comes
in. -/
theorem fires_within_limit_shared :
    let es : List (Event Place) :=
      [.registered .overrides 1 (some 1), .begun, .begun, .invoked .overrides 1, .refused .overrides 1]
    let view : View Handler MockCluster.Script.Memory 1 := .among (fun _ => .empty) 1
    ∃ ex : ScriptExchange, History .fresh es (view.registry ex [[], []]) ∧
      ex.shared.overrides.fired 1 = 1 ∧
      es.count (.invoked .overrides 1) = min 1 2 ∧
      1 ∉ ex.shared.overrides.handles ∧
      ∃ es', History .fresh (es ++ es')
        (view.registry (dispatch Handler.behaviour ex (.request .noop)).world [[], []]) := by
  intro es view
  let rule : Rule Handler := ⟨⟨.req, .noop, none, none, none, none⟩, .script []⟩
  let e : Entry (Rule Handler) := ⟨1, some 1, rule⟩
  let registered : Registry Place (Rule Handler) := Registry.fresh.set .overrides (Scope.empty.register (some 1) rule).2
  let spent : Scope (Rule Handler) := ((registered.scope .overrides).fire 1).erase 1
  let ex : ScriptExchange := .start (.create 1 0) ⟨spent, .empty, .initial, .empty⟩
  have listed : ∀ c ∈ [(Place.overrides, e)], c.2 ∈ (registered.scope c.1).entries := by
    intro c hc
    obtain rfl := List.mem_singleton.1 hc
    exact List.mem_singleton_self e
  have seen : { registered.set .overrides spent with chains := [[], []] } = view.registry ex [[], []] := by
    refine congrArg (Registry.mk · [[], []]) (funext fun place => ?_)
    cases place with
    | connection other => by_cases ho : other = 1 <;> simp [registered, view, View.among, ex, Registry.set, ho] <;> rfl
    | _ => rfl
  have history : History .fresh es { registered.set .overrides spent with chains := [[], []] } :=
    .next (.register .fresh Place.overrides (some 1) rule) <|
    .next (.begin registered [(.overrides, e)] listed) <|
    .next (.begin { registered with chains := [[(.overrides, e)]] } [(.overrides, e)] listed) <|
    .next (.invoke { registered with chains := [[(.overrides, e)], [(.overrides, e)]] }
      (show _ = [] ++ [(Place.overrides, e)] :: [[(.overrides, e)]] from rfl) rfl) <|
    .next (.refuse { registered.set .overrides spent with chains := [[], [(.overrides, e)]] }
      (show _ = [[]] ++ [(Place.overrides, e)] :: [] from rfl) rfl) <|
    .done _
  rw [seen] at history
  obtain ⟨counted, -, continued, -⟩ := fires_within_limit history
  obtain ⟨fired, invoked, -, handles⟩ := counted [] _ .overrides 1 (some 1) rfl
  obtain ⟨-, -, es', -, further, -⟩ := (continued view ex).2 Handler.behaviour (.request .noop) [[], []]
    (edits_behaviour.acts (fun _ => .empty) 1) rfl
  refine ⟨ex, history, fired, invoked 1 rfl, fun hl => ?_, es', further⟩
  exact absurd ((handles.1 hl).2.2 1 rfl Nat.zero_lt_one) (by decide)

end MockCluster.Kv
