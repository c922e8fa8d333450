import MockCluster.Http.Script
import MockCluster.Proofs.Expectation.Scoped

/-!
# The order and the limits of routes

Requests over HTTP go through expectations in the same way as packets do, with two differences: an expectation has a
method and a path pattern, and its handler sees what the pattern captured. The captures are fixed together with the list
of candidates, when the request comes in. A handler that forwards another request does not change what those behind it
see of the path, nor whether they are asked.

`World.Dispatches` says what a dispatch does, and `dispatch_of_matching` that every dispatch does so as long as its
handlers do nothing to the scopes but registering, removing and clearing. Built-in routes and scripts are handlers of
this kind (`edits_behaviour`).
-/

namespace MockCluster.Http

open Registry (Step History Counted)

variable {H M : Type}

/-- The place of a layer in the order in which requests go through the layers. -/
def Layer.rank : Layer → Nat
  | .overrides => 0
  | .defaults => 1

namespace Candidate

/-- A candidate comes before another: its layer comes first, or it is the newer one in the same layer. -/
def Before (c d : Candidate H) : Prop :=
  c.layer.rank < d.layer.rank ∨ (c.layer = d.layer ∧ d.entry.handle < c.entry.handle)

theorem Before.handle_ne {c d : Candidate H} (h : c.Before d) (same : c.layer = d.layer) :
    c.entry.handle ≠ d.entry.handle := by
  obtain h | ⟨-, h⟩ := h
  · rw [same] at h
    exact absurd h (Nat.lt_irrefl _)
  · exact Nat.ne_of_gt h

theorem Before.ne {c d : Candidate H} (h : c.Before d) : c ≠ d := by
  rintro rfl
  exact h.handle_ne rfl rfl

/-- A candidate as it is held by a request. -/
def held (c : Candidate H) : Layer × Entry (Rule H) := (c.layer, c.entry)

/-- What happens when a request reaches a candidate, from the word whether its handler forwarded the request if it was
invoked at all. -/
def event (c : Candidate H) : Option Bool → Event Layer := Event.reached c.layer c.entry.handle

end Candidate

theorem Rule.match?_eq_some_iff {rule : Rule H} {r : Request} {captures : NameMap String} :
    rule.match? r = some captures ↔
      (∀ method, rule.method = some method → method.toLower = r.method.toLower) ∧
        rule.path.match? r.path = some captures := by
  unfold match?
  cases rule.method <;> simp

namespace World

/-- Whether a candidate may not fire any more. -/
def isSpent (w : World H M) (c : Candidate H) : Bool := (w.scope c.layer).isSpent c.entry

/-- The candidates that may fire. -/
def eligible (w : World H M) (r : Request) : List (Candidate H) := (w.candidates r).filter fun c => !w.isSpent c

theorem mem_candidates {w : World H M} {r : Request} {c : Candidate H} :
    c ∈ w.candidates r ↔ c.entry ∈ (w.scope c.layer).entries ∧ c.entry.content.match? r = some c.captures := by
  obtain ⟨layer, entry, captures⟩ := c
  simp only [candidates, candidatesIn, List.mem_flatMap, List.mem_filterMap, List.mem_reverse,
    Option.map_eq_some_iff, Candidate.mk.injEq]
  constructor
  · rintro ⟨_, -, e, he, _, hc, rfl, rfl, rfl⟩
    exact ⟨he, hc⟩
  · rintro ⟨he, hc⟩
    exact ⟨layer, by cases layer <;> simp [Layer.all], entry, he, captures, hc, rfl, rfl, rfl⟩

theorem pairwise_candidates (w : World H M) (r : Request) : (w.candidates r).Pairwise Candidate.Before := by
  rw [candidates, List.pairwise_flatMap]
  constructor
  · intro layer _
    have newest : (w.scope layer).entries.reverse.Pairwise fun a b => b.handle < a.handle :=
      List.pairwise_reverse.2 (List.pairwise_map.1 (w.scope layer).ascending)
    rw [candidatesIn, List.pairwise_filterMap]
    refine newest.imp fun older c hc d hd => ?_
    obtain ⟨_, -, rfl⟩ := Option.map_eq_some_iff.1 hc
    obtain ⟨_, -, rfl⟩ := Option.map_eq_some_iff.1 hd
    exact .inr ⟨rfl, older⟩
  · have ranks : Layer.all.Pairwise fun a b => a.rank < b.rank := by decide
    refine ranks.imp fun hr c hc d hd => .inl ?_
    obtain ⟨_, -, hc⟩ := List.mem_filterMap.1 hc
    obtain ⟨_, -, hd⟩ := List.mem_filterMap.1 hd
    obtain ⟨_, -, rfl⟩ := Option.map_eq_some_iff.1 hc
    obtain ⟨_, -, rfl⟩ := Option.map_eq_some_iff.1 hd
    exact hr

theorem scope_setScope (w : World H M) (layer : Layer) (s : Scope (Rule H)) :
    (w.setScope layer s).scope = Function.update w.scope layer s := by
  funext other
  rw [Function.update_apply]
  cases layer <;> cases other <;> rfl

/-- When a request comes in, none of its candidates has fired since. -/
theorem awaits_candidates (w : World H M) (r : Request) :
    Awaits World.scope Candidate.layer Candidate.entry w (w.candidates r) w where
  distinct := (w.pairwise_candidates r).imp fun before => before.handle_ne
  given c hc := (w.scope c.layer).given _ (mem_candidates.1 hc).1
  fired _ _ := rfl

end World

theorem Candidate.claimsIn :
    ClaimsIn (Candidate.claim : Candidate H → World H M → _) World.scope Candidate.layer Candidate.entry := by
  intro c w
  rw [Candidate.claim, Option.map_map]
  exact congrArg (Option.map · _) (funext fun s => w.scope_setScope c.layer s)

/-- Handlers that register, remove and clear what they like, whenever they run, and that touch the scopes in no other
way. -/
def Behaviour.Edits (behaviour : Behaviour H M) : Prop :=
  ∀ handler visit w r, (behaviour handler visit w r).Within (EditedIn World.scope) w

section Dispatch

variable (behaviour : Behaviour H M) (node : NodeId)

/-- What a dispatch does, given the candidates that the request reaches. -/
structure World.Dispatches (w : World H M) (r : Request) (reached : List (Candidate H × Option Bool)) : Prop where
  /-- Those expectations are eligible that match the request in its method, if they have one, and in its path, and that
  are not spent. -/
  mem_eligible_iff : ∀ c, c ∈ w.eligible r ↔
    c.entry ∈ (w.scope c.layer).entries ∧
      (∀ method, c.entry.content.method = some method → method.toLower = r.method.toLower) ∧
      c.entry.content.path.match? r.path = some c.captures ∧
      (w.scope c.layer).isSpent c.entry = false
  /-- They stand in the order of layers, in each layer the newest first. -/
  ordered : (w.eligible r).Pairwise Candidate.Before
  /-- The candidates that are reached are those of a run. -/
  reaches : (chain behaviour node).Reaches (w.candidates r) w r reached (dispatch behaviour node w r)
  /-- Those that are invoked are a beginning of the eligible ones. -/
  invoked : (invocations reached).map Prod.fst <+: w.eligible r
  once : ((invocations reached).map Prod.fst).Nodup
  first : w.eligible r ≠ [] → invocations reached ≠ []
  /-- The next one is invoked if and only if the one before it forwarded a request. -/
  next : ∀ k, k + 1 < (w.eligible r).length →
    (k + 1 < (invocations reached).length ↔ ∃ c, (invocations reached)[k]? = some (c, true))
  /-- A handler sees nothing but the captures of its own pattern on the path of the request that came in: what it would
  do with others does not matter. -/
  visits : ∀ behaviour' : Behaviour H M,
    (∀ c ∈ w.eligible r, ∀ w' r', behaviour' c.entry.content.handler ⟨node, c.captures⟩ w' r' =
      behaviour c.entry.content.handler ⟨node, c.captures⟩ w' r') →
    dispatch behaviour' node w r = dispatch behaviour node w r
  /-- There is no response if nothing is eligible. -/
  unanswered : w.eligible r = [] → dispatch behaviour node w r = .returned w none
  /-- Otherwise there is what the first handler returns. -/
  answered : ∀ c, (w.eligible r).head? = some c →
    ∃ rest claimed, c :: rest <:+ w.candidates r ∧ c.claim w = some claimed ∧
      dispatch behaviour node w r =
        (behaviour c.entry.content.handler ⟨node, c.captures⟩ claimed r).outcome ((chain behaviour node).run rest)

variable {behaviour}

theorem Behaviour.Edits.fixes (edits : behaviour.Edits) (start : World H M) :
    (chain behaviour node).Fixes (EditedIn World.scope) start.isSpent
      (Awaits World.scope Candidate.layer Candidate.entry start) :=
  Candidate.claimsIn.fixes (fun c _ w r => edits c.entry.content.handler ⟨node, c.captures⟩ w r) start

theorem Behaviour.Edits.exists_dispatches (edits : behaviour.Edits) (w : World H M) (r : Request) :
    ∃ reached, w.Dispatches behaviour node r reached := by
  obtain ⟨reached, run⟩ := (chain behaviour node).reaches_run (w.candidates r) w r
  have fixes := edits.fixes node w
  have awaits := w.awaits_candidates r
  have ordered : (w.eligible r).Pairwise Candidate.Before := (w.pairwise_candidates r).filter _
  have follows : Follows (w.eligible r) (invocations reached) := run.follows fixes awaits
  exact ⟨reached, {
    mem_eligible_iff := fun c => by
      simp [World.eligible, World.isSpent, World.mem_candidates, Rule.match?_eq_some_iff, and_assoc]
    ordered
    reaches := run
    invoked := follows.isPrefix
    once := (ordered.imp fun before => before.ne).sublist follows.isPrefix.sublist
    first := follows.ne_nil
    next := fun k hk => follows.lt_length_iff hk
    visits := fun behaviour' agree => fixes.run_congr rfl rfl awaits fun c hc _ w' r' => agree c hc w' r'
    unanswered := fixes.run_eq_unanswered awaits
    answered := fun c first => fixes.run_eq_outcome awaits first }⟩

end Dispatch

section Handlers

/-- The state that an action leaves. -/
def Effect.world : Effect → ScriptWorld
  | goOn w _ => w
  | stop outcome => outcome.world

theorem World.edited_setScope {w : World H M} {layer : Layer} {s : Scope (Rule H)} (edited : (w.scope layer).Edited s) :
    EditedIn World.scope w (w.setScope layer s) :=
  .of_update edited (w.scope_setScope layer s)

theorem Manage.edited_run (request : Manage Script) (w : ScriptWorld) : EditedIn World.scope w (request.run w).2 := by
  cases request with
  | register layer draft name script =>
    simp only [Manage.run]
    cases draft.rule (Handler.script script) with
    | error fault => exact .of_scope_eq rfl
    | ok rule =>
      have registered := w.edited_setScope (.register draft.limit rule (.unchanged (s := w.scope layer)))
      exact registered.trans (.of_scope_eq rfl)
  | remove layer name =>
    simp only [Manage.run]
    cases w.memory.requests.handles.get? name with
    | none => exact .of_scope_eq rfl
    | some handle => exact World.edited_setScope (.erase handle .unchanged)
  | clear layer => exact World.edited_setScope (.clear .unchanged)
  | count layer => exact .of_scope_eq rfl

theorem Effect.world_text? (w : ScriptWorld) (text : Option String) : (Effect.text? w text).world = w := by
  cases text <;> rfl

theorem Action.edited_perform (a : Action) (visit : Visit) (w : ScriptWorld) (r : Request) (result : Option Response) :
    EditedIn World.scope w (a.perform visit w r result).world := by
  cases a with
  | capture | query | header =>
    rw [Action.perform, Effect.world_text?]
    exact .of_scope_eq rfl
  | amend =>
    cases result <;> exact .of_scope_eq rfl
  | manage request => exact (request.edited_run w).trans (.of_scope_eq rfl)
  | _ => exact .of_scope_eq rfl

theorem Script.edited_runAfter (visit : Visit) (script : Script) (w : ScriptWorld) (r : Request)
    (result : Option Response) : EditedIn World.scope w (script.runAfter visit w r result).world := by
  induction script generalizing w result with
  | nil => exact .of_scope_eq rfl
  | cons action rest ih =>
    have edited := action.edited_perform visit w r result
    rw [runAfter]
    cases performed : action.perform visit w r result with
    | goOn w' result' =>
      rw [performed] at edited
      exact edited.trans (ih w' result')
    | stop outcome =>
      rw [performed] at edited
      exact edited

theorem Script.within_run (visit : Visit) (script : Script) (w : ScriptWorld) (r : Request) (result : Option Response) :
    (script.run visit w r result).Within (EditedIn World.scope) w := by
  fun_induction Script.run visit script w r result with
  | case1 => exact .of_scope_eq rfl
  | case2 => exact ⟨.of_scope_eq rfl, fun back result => Script.edited_runAfter visit _ back _ result⟩
  | case3 action rest w r result _ next result' performed ih =>
    have edited := action.edited_perform visit w r result
    rw [performed] at edited
    exact ih.after .trans edited
  | case4 action rest w r result _ outcome performed =>
    have edited := action.edited_perform visit w r result
    rw [performed] at edited
    exact edited

/-- **Built-in routes and scripts only edit.** -/
theorem edits_behaviour : Behaviour.Edits Handler.behaviour := by
  intro handler visit w r
  cases handler with
  | builtin route => exact .of_scope_eq rfl
  | script actions => exact Script.within_run visit actions w r none

end Handlers

section History

variable {behaviour : Behaviour H M}

/-- Handlers that edit the scopes act. -/
theorem Behaviour.Edits.acts (edits : behaviour.Edits) (handler : H) (visit : Visit) (w : World H M) (r : Request) :
    (behaviour handler visit w r).Within (ActsIn World.scope) w :=
  (edits handler visit w r).imp fun edited => edited.acts Layer.all fun layer none => by
    cases layer <;> exact absurd none (by decide)

/-- **A request goes through the expectations that match it.** Whatever the scopes hold, a dispatch invokes a beginning
of the eligible expectations, each with its own captures, and returns what the first one returns. Whatever happened
before, an expectation was invoked as often as a request reached it within its limit, and is listed until it is removed
or cleared or its last invocation begins: the claim before an invocation is the next thing that happens, and the handler
begins in the state afterwards. A whole dispatch, with whatever its handlers do, goes on with the history. -/
theorem dispatch_of_matching (edits : behaviour.Edits) (node : NodeId) (w : World H M) (r : Request) :
    ∃ reached, w.Dispatches behaviour node r reached ∧
      ∀ es chains, History .fresh es (⟨w.scope, chains⟩ : Registry Layer (Rule H)) →
        (∀ before since layer handle limit, es = before ++ .registered layer handle limit :: since →
          Counted (⟨w.scope, chains⟩ : Registry Layer (Rule H)) es since layer handle limit) ∧
        (∀ c rest behind, chains = (c :: rest).map Candidate.held :: behind →
          match c.claim w with
          | none => History .fresh (es ++ [.refused c.layer c.entry.handle])
              (⟨w.scope, rest.map Candidate.held :: behind⟩ : Registry Layer (Rule H))
          | some claimed => History .fresh (es ++ [.invoked c.layer c.entry.handle])
              (⟨claimed.scope, rest.map Candidate.held :: behind⟩ : Registry Layer (Rule H))) ∧
        ∃ es', History .fresh (es ++ es')
            (⟨(dispatch behaviour node w r).world.scope, chains⟩ : Registry Layer (Rule H)) ∧
          (reached.map fun c => c.1.event c.2).Sublist es' := by
  obtain ⟨reached, dispatches⟩ := edits.exists_dispatches node w r
  refine ⟨reached, dispatches, fun es chains history => ⟨?_, ?_, ?_⟩⟩
  · rintro before since layer handle limit rfl
    exact history.counted
  · rintro c rest behind rfl
    cases claimed : c.claim w with
    | none => exact history.trans (.next (Candidate.claimsIn.step_refused claimed) (.done _))
    | some w' => exact history.trans (.next (Candidate.claimsIn.step_invoked claimed) (.done _))
  · have acts := fun (c : Candidate H) (_ : Nat) (w : World H M) (r : Request) =>
      edits.acts c.entry.content.handler ⟨node, c.captures⟩ w r
    obtain ⟨es', further, sub⟩ := Candidate.claimsIn.exists_history acts
      (fun c hc => (World.mem_candidates.1 hc).1) dispatches.reaches chains
    exact ⟨es', history.trans further, sub⟩

/-- Of two expectations the newer one forwards another request, whose path matches nothing. The older one may fire once;
it sees the name in the path of the request that came in, and answers with it. -/
theorem dispatch_of_matching_redirected :
    let pattern : PathPattern := .ofString "/b/\x7bname\x7d"
    let older : Rule Handler := ⟨none, pattern, .script [.capture "name"]⟩
    let newer : Rule Handler := ⟨none, pattern, .script [.next (some (.create "POST" "/"))]⟩
    let w : ScriptWorld :=
      ⟨((Scope.empty.register (some 1) older).2.register none newer).2, .empty, .initial, .empty⟩
    let r : Request := .create "GET" "/b/x"
    let es : List (Event Layer) := [.registered .overrides 1 (some 1), .registered .overrides 2 none]
    Behaviour.Edits Handler.behaviour ∧
      (w.eligible r).map (fun c => (c.entry.handle, c.captures.get? "name")) = [(2, some "x"), (1, some "x")] ∧
      (∃ reached, w.Dispatches Handler.behaviour 0 r reached) ∧
      sent (dispatch Handler.behaviour 0 w r) = .text 200 "x" ∧
      (dispatch Handler.behaviour 0 w r).world.overrides.handles = [2] ∧
      ∃ es', History .fresh (es ++ es')
        (⟨(dispatch Handler.behaviour 0 w r).world.scope, []⟩ : Registry Layer (Rule Handler)) := by
  intro pattern older newer w r es
  have history : History .fresh es (⟨w.scope, []⟩ : Registry Layer (Rule Handler)) := by
    let first : Registry Layer (Rule Handler) := Registry.fresh.set .overrides (Scope.empty.register (some 1) older).2
    have listed : first.scope .overrides = (Scope.empty.register (some 1) older).2 := by simp [first, Registry.set]
    have again := Step.register first .overrides none newer
    rw [listed] at again
    have last : first.set .overrides ((Scope.empty.register (some 1) older).2.register none newer).2 =
        ⟨w.scope, []⟩ := by
      refine congrArg (Registry.mk · []) (funext fun layer => ?_)
      cases layer <;> rfl
    rw [last] at again
    exact .next (.register .fresh Layer.overrides (some 1) older) (.next again (.done _))
  obtain ⟨reached, dispatches, continues⟩ := dispatch_of_matching edits_behaviour 0 w r
  obtain ⟨-, -, es', further, -⟩ := continues es [] history
  exact ⟨edits_behaviour, by decide +kernel, ⟨reached, dispatches⟩, by decide +kernel, by decide +kernel, es', further⟩

end History

end MockCluster.Http
