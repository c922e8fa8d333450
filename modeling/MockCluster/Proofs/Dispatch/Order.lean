import MockCluster.Kv.Script
import MockCluster.Proofs.Expectation.Scoped

/-!
# The order of handlers

Which handlers a packet may reach is settled when it comes in (`Exchange.eligible`): the matching expectations that are
not spent, layer by layer, in each layer the newest first. A dispatch invokes a beginning of this list
(`dispatch_invokes`). Handlers decide how far it goes, by forwarding or not, and nothing else: what they register,
remove or clear meanwhile (`Behaviour.Edits`) counts for later packets only, and so does what a forwarded packet would
match. Built-in services and scripts are handlers of this kind (`edits_behaviour`).

The invariant is `Exchange.Awaits`: the candidates still to come have fired as often as when the packet came in.
-/

namespace MockCluster.Kv

variable {H M : Type}

/-- The place of a layer in the order in which requests go through the layers. -/
def Layer.rank : Layer → Nat
  | .connection => 0
  | .overrides => 1
  | .defaults => 2

/-- A candidate comes before another: its layer comes first, or it is the newer one in the same layer. -/
def Candidate.Before (c d : Candidate H) : Prop :=
  c.layer.rank < d.layer.rank ∨ (c.layer = d.layer ∧ d.entry.handle < c.entry.handle)

theorem Candidate.Before.ne {c d : Candidate H} (h : c.Before d) : c ≠ d := by
  rintro rfl
  rcases h with h | ⟨-, h⟩ <;> exact absurd h (Nat.lt_irrefl _)

/-- Two candidates of which one comes before the other differ in their handles if they are of one layer. -/
theorem Candidate.Before.handle_ne {c d : Candidate H} (h : c.Before d) (hl : c.layer = d.layer) :
    d.entry.handle ≠ c.entry.handle := by
  rcases h with h | ⟨-, h⟩
  · rw [hl] at h
    exact absurd h (Nat.lt_irrefl _)
  · exact Nat.ne_of_lt h

namespace Exchange

/-- The exchange changes in its scopes by registering, removing and clearing only; all else may change in any way. -/
def Edited (ex ex' : Exchange H M) : Prop := ∀ layer, (ex.scope layer).Edited (ex'.scope layer)

/-- Whether a candidate may not fire any more. -/
def isSpent (ex : Exchange H M) (c : Candidate H) : Bool := (ex.scope c.layer).isSpent c.entry

/-- The candidates that may fire. -/
def eligible (ex : Exchange H M) (p : Packet) : List (Candidate H) :=
  (ex.candidates p).filter fun c => !ex.isSpent c

theorem mem_candidates {ex : Exchange H M} {p : Packet} {c : Candidate H} :
    c ∈ ex.candidates p ↔
      c.entry ∈ (ex.scope c.layer).entries ∧ c.entry.content.matcher.matches p = true := by
  obtain ⟨layer, entry⟩ := c
  simp only [candidates, candidatesIn, List.mem_flatMap, List.mem_map, List.mem_filter, List.mem_reverse,
    Candidate.mk.injEq]
  constructor
  · rintro ⟨_, -, e, he, rfl, rfl⟩
    exact he
  · intro he
    exact ⟨layer, by cases layer <;> simp [Layer.all], entry, he, rfl, rfl⟩

theorem pairwise_candidates (ex : Exchange H M) (p : Packet) : (ex.candidates p).Pairwise Candidate.Before := by
  rw [candidates, List.pairwise_flatMap]
  constructor
  · intro layer _
    have newest : (ex.scope layer).entries.reverse.Pairwise fun a b => b.handle < a.handle :=
      List.pairwise_reverse.2 (List.pairwise_map.1 (ex.scope layer).ascending)
    rw [candidatesIn, List.pairwise_map]
    exact (newest.filter _).imp fun h => .inr ⟨rfl, h⟩
  · have ranks : Layer.all.Pairwise fun a b => a.rank < b.rank := by decide
    refine ranks.imp fun hr c hc d hd => .inl ?_
    obtain ⟨_, -, rfl⟩ := List.mem_map.1 hc
    obtain ⟨_, -, rfl⟩ := List.mem_map.1 hd
    exact hr

theorem scope_setScope (ex : Exchange H M) (layer : Layer) (s : Scope (Rule H)) :
    (ex.setScope layer s).scope = Function.update ex.scope layer s := by
  funext other
  rw [Function.update_apply]
  cases layer <;> cases other <;> rfl

/-- Seen from the moment when the packet came in, the candidates still to come have not fired. -/
def Awaits (start : Exchange H M) (cs : List (Candidate H)) (ex : Exchange H M) : Prop :=
  MockCluster.Awaits Exchange.scope Candidate.layer Candidate.entry start cs ex

theorem Awaits.candidates (ex : Exchange H M) (p : Packet) : ex.Awaits (ex.candidates p) ex where
  distinct := (ex.pairwise_candidates p).imp fun before same => (before.handle_ne same).symm
  given c hc := (ex.scope c.layer).given _ (mem_candidates.1 hc).1
  fired _ _ := rfl

end Exchange

theorem Candidate.claimsIn :
    ClaimsIn (Candidate.claim : Candidate H → Exchange H M → _) Exchange.scope Candidate.layer Candidate.entry := by
  intro c ex
  rw [Candidate.claim, Option.map_map]
  exact congrArg (Option.map · _) (funext fun s => ex.scope_setScope c.layer s)

/-- Handlers that register, remove and clear what they like, whenever they run, and that touch the scopes in no other
way. -/
def Behaviour.Edits (behaviour : Behaviour H M) : Prop :=
  ∀ handler remaining ex p, (behaviour handler remaining ex p).Within Exchange.Edited ex

theorem Behaviour.Edits.fixes {behaviour : Behaviour H M} (edits : behaviour.Edits) (start : Exchange H M) :
    (chain behaviour).Fixes Exchange.Edited start.isSpent start.Awaits :=
  have within (c : Candidate H) (remaining : Nat) (ex : Exchange H M) (p : Packet) :
      ((chain behaviour).invoke c remaining ex p).Within (EditedIn Exchange.scope) ex :=
    edits c.entry.content.handler remaining ex p
  Candidate.claimsIn.fixes within start

theorem dispatch_eq (behaviour : Behaviour H M) (ex : Exchange H M) (p : Packet) :
    dispatch behaviour ex p =
      if ex.candidates p = [] then .returned ex (.ok false)
      else ((chain behaviour).run (ex.candidates p) ex p).map fun ex result =>
        result.map fun _ => ex.response.isSome := by
  unfold dispatch
  split <;> simp_all

section Handlers

variable {ex ex' ex'' : Exchange H M}

namespace Exchange.Edited

theorem of_scope_eq (h : ∀ layer, ex'.scope layer = ex.scope layer) : ex.Edited ex' :=
  EditedIn.of_scope_eq (funext h)

theorem trans (first : ex.Edited ex') (second : ex'.Edited ex'') : ex.Edited ex'' :=
  EditedIn.trans first second

theorem setScope {layer : Layer} {s : Scope (Rule H)} (h : (ex.scope layer).Edited s) :
    ex.Edited (ex.setScope layer s) :=
  EditedIn.of_update h (ex.scope_setScope layer s)

theorem answer (h : ex.Edited ex') (p : Packet) : ex.Edited (ex'.answer p).world := by
  refine h.trans (of_scope_eq fun layer => ?_)
  unfold Exchange.answer write
  cases ex'.response <;> cases layer <;> rfl

end Exchange.Edited

theorem Builtin.edited_run (b : Builtin) (ex : Exchange H M) (p : Packet) : ex.Edited (b.run ex p).world := by
  cases b with
  | hello =>
    simp only [Builtin.run, runHello]
    split
    · exact .answer (.of_scope_eq fun _ => rfl) _
    · exact .answer (.of_scope_eq fun layer => by cases layer <;> rfl) _
  | noop | saslListMechs | getClusterConfig => exact .answer (.of_scope_eq fun _ => rfl) _
  | saslAuth credentials =>
    simp only [Builtin.run, runSaslAuth]
    split
    · exact .answer (.of_scope_eq fun layer => by cases layer <;> rfl) _
    · exact .answer (.of_scope_eq fun _ => rfl) _
  | selectBucket =>
    simp only [Builtin.run, runSelectBucket]
    split
    · exact .answer (.of_scope_eq fun _ => rfl) _
    · exact .answer (.of_scope_eq fun layer => by cases layer <;> rfl) _

theorem Manage.edited_run (request : Manage Script) (ex : ScriptExchange) : ex.Edited (request.run ex).2 := by
  cases request with
  | register layer draft name script =>
    simp only [Manage.run]
    cases draft.matcher with
    | error fault => exact .of_scope_eq fun _ => rfl
    | ok matcher =>
      let rule : Rule Handler := ⟨matcher, .script script⟩
      have registered : ex.Edited (ex.setScope layer ((ex.scope layer).register draft.limit rule).2) :=
        .setScope (.register draft.limit rule .unchanged)
      exact registered.trans (.of_scope_eq fun other => by cases other <;> rfl)
  | remove layer name =>
    simp only [Manage.run]
    cases ex.shared.memory.packets.handles.get? name with
    | none => exact .of_scope_eq fun _ => rfl
    | some handle => exact .setScope (.erase handle .unchanged)
  | clear layer => exact .setScope (.clear .unchanged)
  | count layer => exact .of_scope_eq fun _ => rfl

theorem Action.edited_perform (a : Action) (remaining : Option Nat) (ex : ScriptExchange) (p : Packet) :
    ex.Edited (a.perform remaining ex p).world := by
  cases a with
  | write patch opaqueAdd => exact .answer (.of_scope_eq fun _ => rfl) _
  | amend patch =>
    simp only [Action.perform]
    cases ex.response with
    | none => exact .of_scope_eq fun _ => rfl
    | some response => exact .answer (.of_scope_eq fun layer => by cases layer <;> rfl) _
  | manage request =>
    have he := request.edited_run ex
    simp only [Action.perform]
    split
    · rename_i hr
      rw [hr] at he
      exact he
    · rename_i hr
      rw [hr] at he
      exact he.trans (.of_scope_eq fun layer => by cases layer <;> rfl)
  | _ => exact .of_scope_eq fun layer => by cases layer <;> rfl

theorem Action.edited_proceed {ex : ScriptExchange} {ignore : Bool} {outcome : ScriptOutcome}
    {goOn : ScriptExchange → ScriptOutcome} (h : ex.Edited outcome.world)
    (hg : ∀ ex', ex.Edited ex' → ex.Edited (goOn ex').world) :
    ex.Edited (Action.proceed ignore outcome goOn).world := by
  cases outcome with
  | panicked => exact h
  | returned ex' result =>
    cases result with
    | ok => exact hg ex' h
    | error fault =>
      cases ignore with
      | false => exact h
      | true => exact hg _ (h.trans (.of_scope_eq fun layer => by cases layer <;> rfl))

theorem Script.edited_runAfter (script : Script) (ex : ScriptExchange) (p : Packet) :
    ex.Edited (Script.runAfter script ex p).world := by
  induction script generalizing ex with
  | nil => exact .of_scope_eq fun _ => rfl
  | cons head rest ih =>
    exact Action.edited_proceed (head.1.edited_perform none ex p) fun ex' h => h.trans (ih ex')

theorem Script.within_run (script : Script) (remaining : Nat) (ex : ScriptExchange) (p : Packet) :
    (Script.run script remaining ex p).Within Exchange.Edited ex := by
  fun_induction Script.run script remaining ex p with
  | case1 => exact .of_scope_eq fun _ => rfl
  | case2 patch ignore rest remaining ex p =>
    refine ⟨.of_scope_eq fun _ => rfl, fun back result => ?_⟩
    exact Action.edited_proceed (.of_scope_eq fun _ => rfl) fun ex' h => h.trans (Script.edited_runAfter rest ex' p)
  | case3 action ignore rest remaining ex p _ next hp ih =>
    have he := action.edited_perform (some remaining) ex p
    rw [hp] at he
    exact ih.after .trans he
  | case4 action rest remaining ex p _ next fault hp ih =>
    have he := action.edited_perform (some remaining) ex p
    rw [hp] at he
    exact ih.after .trans (he.trans (.of_scope_eq fun layer => by cases layer <;> rfl))
  | case5 action ignore rest remaining ex p _ next fault hp _ =>
    have he := action.edited_perform (some remaining) ex p
    rw [hp] at he
    exact he
  | case6 action ignore rest remaining ex p _ next message hp =>
    have he := action.edited_perform (some remaining) ex p
    rw [hp] at he
    exact he

/-- **Built-in services and scripts only edit.** -/
theorem edits_behaviour : Behaviour.Edits Handler.behaviour := by
  intro handler remaining ex p
  cases handler with
  | builtin service => exact service.edited_run ex p
  | script actions => exact Script.within_run actions remaining ex p

end Handlers

/-- **A dispatch invokes a beginning of the eligible expectations.** These are the matching ones that are not spent when
the packet comes in, in the order of layers and in each layer the newest first. Each is invoked at most once: the first
one always, and each further one if and only if the one before it forwarded the packet, or any other. -/
theorem dispatch_invokes {behaviour : Behaviour H M} (edits : behaviour.Edits) (ex : Exchange H M) (p : Packet) :
    ∃ reached outcome,
      (chain behaviour).Reaches (ex.candidates p) ex p reached outcome ∧
      dispatch behaviour ex p =
        (if ex.candidates p = [] then .returned ex (.ok false)
         else outcome.map fun ex result => result.map fun _ => ex.response.isSome) ∧
      (∀ c, c ∈ ex.eligible p ↔
        c.entry ∈ (ex.scope c.layer).entries ∧ c.entry.content.matcher.matches p = true ∧
          (ex.scope c.layer).isSpent c.entry = false) ∧
      (ex.eligible p).Pairwise Candidate.Before ∧
      ((invocations reached).map Prod.fst <+: ex.eligible p) ∧
      ((invocations reached).map Prod.fst).Nodup ∧
      (ex.eligible p ≠ [] → invocations reached ≠ []) ∧
      ∀ k, k + 1 < (ex.eligible p).length →
        (k + 1 < (invocations reached).length ↔ ∃ c, (invocations reached)[k]? = some (c, true)) := by
  obtain ⟨reached, run⟩ := (chain behaviour).reaches_run (ex.candidates p) ex p
  have ordered : (ex.eligible p).Pairwise Candidate.Before := (ex.pairwise_candidates p).filter _
  have follows : Follows (ex.eligible p) (invocations reached) := run.follows (edits.fixes ex) (.candidates ex p)
  refine ⟨reached, _, run, dispatch_eq behaviour ex p, fun c => ?_, ordered, follows.isPrefix, ?_, follows.ne_nil,
    fun k hk => follows.lt_length_iff hk⟩
  · simp [Exchange.eligible, Exchange.mem_candidates, Exchange.isSpent, and_assoc]
  · exact (ordered.imp fun h => h.ne).sublist follows.isPrefix.sublist

/-- Of the overrides one is spent and a newer one clears the scopes before it forwards another packet; behind them stands
the built-in service. -/
theorem dispatch_invokes_clearing :
    let noop : Matcher := ⟨.req, .noop, none, none, none, none⟩
    let clearing : Script :=
      [(.manage (.clear .overrides), false), (.manage (.clear .defaults), false),
        (.next { (default : PacketPatch) with command := some .get }, false)]
    let overrides := ((Scope.empty.register (some 0) ⟨noop, .script []⟩).2.register none ⟨noop, .script clearing⟩).2
    let ex : ScriptExchange :=
      .start (.create 1 0) ⟨overrides, Builtin.registerAll .standard .builtin .empty, .initial, .empty⟩
    let p := Packet.request .noop
    Behaviour.Edits Handler.behaviour ∧
      (ex.eligible p).map (fun c => (c.layer, c.entry.handle)) = [(.overrides, 2), (.defaults, 2)] ∧
      ∃ reached outcome, (chain Handler.behaviour).Reaches (ex.candidates p) ex p reached outcome ∧
        ((invocations reached).map Prod.fst <+: ex.eligible p) ∧ invocations reached ≠ [] := by
  intro noop clearing overrides ex p
  obtain ⟨reached, outcome, run, -, -, -, hprefix, -, hfirst, -⟩ := dispatch_invokes edits_behaviour ex p
  exact ⟨edits_behaviour, by decide, reached, outcome, run, hprefix, hfirst (by decide)⟩

end MockCluster.Kv
