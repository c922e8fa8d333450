import MockCluster.Proofs.Expectation.History
import MockCluster.Proofs.Expectation.Invocations

/-!
# Chains through scopes

The candidates of a chain are entries of scopes, and to claim a candidate is to claim its entry where it is listed
(`ClaimsIn`). Two things hold of every chain of this kind.

* As long as handlers do nothing to the scopes but edit them (`EditedIn`), it stays fixed which candidates are spent
  (`ClaimsIn.fixes`). The invariant is `Awaits`: the candidates still to come have fired as often as at the start.
* As long as what handlers do is a history of expectations (`ActsIn`), a whole run of the chain is one too
  (`ClaimsIn.exists_history`). To edit is to act (`EditedIn.acts`).
-/

namespace MockCluster

variable {C W Q R P α : Type} {scope : W → P → Scope α} {place : C → P} {entry : C → Entry α}

/-- The scopes change by registering, removing and clearing only; all else may change in any way. -/
def EditedIn (scope : W → P → Scope α) (w w' : W) : Prop := ∀ p, (scope w p).Edited (scope w' p)

/-- Seen from the start, the candidates still to come have not fired. -/
structure Awaits (scope : W → P → Scope α) (place : C → P) (entry : C → Entry α) (start : W) (cs : List C) (w : W) :
    Prop where
  /-- No two candidates are the same entry. -/
  distinct : cs.Pairwise fun c d => place c = place d → (entry c).handle ≠ (entry d).handle
  given : ∀ c ∈ cs, (entry c).handle < (scope w (place c)).next
  fired : ∀ c ∈ cs, (scope w (place c)).fired (entry c).handle = (scope start (place c)).fired (entry c).handle

/-- What happens when a request reaches a candidate, from the word whether its handler forwarded the request if it was
invoked at all. -/
def Event.reached (place : P) (handle : Nat) : Option Bool → Event P
  | none => .refused place handle
  | some _ => .invoked place handle

namespace EditedIn

variable {w w' w'' : W}

theorem of_scope_eq (same : scope w' = scope w) : EditedIn scope w w' := fun p => by
  rw [same]
  exact .unchanged

theorem trans (first : EditedIn scope w w') (second : EditedIn scope w' w'') : EditedIn scope w w'' := fun p =>
  (first p).trans (second p)

/-- To edit the scope of one place is to edit. -/
theorem of_update [DecidableEq P] {p : P} {s : Scope α} (edited : (scope w p).Edited s)
    (updated : scope w' = Function.update (scope w) p s) : EditedIn scope w w' := fun other => by
  rw [updated, Function.update_apply]
  split
  · rename_i same
    rw [same]
    exact edited
  · exact .unchanged

end EditedIn

variable [DecidableEq P]

/-- To claim a candidate is to claim its entry, and changes nothing else in the scopes. -/
def ClaimsIn (claim : C → W → Option W) (scope : W → P → Scope α) (place : C → P) (entry : C → Entry α) : Prop :=
  ∀ c w, (claim c w).map scope = ((scope w (place c)).claim (entry c)).map (Function.update (scope w) (place c))

namespace ClaimsIn

variable {claim : C → W → Option W} {chain : Chain C W Q R} {w w' start : W} {c : C} {cs rest : List C}

theorem claim_eq_none_iff (h : ClaimsIn claim scope place entry) :
    claim c w = none ↔ (scope w (place c)).claim (entry c) = none := by
  rw [← Option.map_eq_none_iff, h c w, Option.map_eq_none_iff]

theorem exists_of_claim (h : ClaimsIn claim scope place entry) (granted : claim c w = some w') :
    ∃ s, (scope w (place c)).claim (entry c) = some s ∧ scope w' = Function.update (scope w) (place c) s := by
  have claimed := h c w
  rw [granted] at claimed
  obtain ⟨s, hs, he⟩ := Option.map_eq_some_iff.1 claimed.symm
  exact ⟨s, hs, he.symm⟩

/-- Claiming a candidate leaves alone how often those behind have fired. -/
theorem awaits_of_claim (h : ClaimsIn claim scope place entry) (awaits : Awaits scope place entry start (c :: rest) w)
    (granted : claim c w = some w') : Awaits scope place entry start rest w' := by
  obtain ⟨s, hs, he⟩ := h.exists_of_claim granted
  have hg := awaits.given c List.mem_cons_self
  -- Only the count of the claimed entry moves, and no candidate behind is the same entry.
  have same (d : C) (hd : d ∈ rest) : (scope w' (place d)).next = (scope w (place d)).next ∧
      (scope w' (place d)).fired (entry d).handle = (scope w (place d)).fired (entry d).handle := by
    rw [he, Function.update_apply]
    split
    · rename_i hp
      have differs := List.rel_of_pairwise_cons awaits.distinct hd hp.symm
      rw [hp, Scope.next_of_claim hs, Scope.fired_of_claim hs hg, if_neg differs.symm]
      exact ⟨rfl, rfl⟩
    · exact ⟨rfl, rfl⟩
  refine ⟨awaits.distinct.tail, fun d hd => ?_, fun d hd => ?_⟩
  · rw [(same d hd).1]
    exact awaits.given d (List.mem_cons_of_mem _ hd)
  · rw [(same d hd).2]
    exact awaits.fired d (List.mem_cons_of_mem _ hd)

/-- **Edits do not change which candidates are spent.** -/
theorem fixes (h : ClaimsIn chain.claim scope place entry)
    (edits : ∀ c n w q, (chain.invoke c n w q).Within (EditedIn scope) w) (start : W) :
    chain.Fixes (EditedIn scope) (fun c => (scope start (place c)).isSpent (entry c))
      (Awaits scope place entry start) where
  claim_eq_none_iff {c rest w} awaits := by
    rw [h.claim_eq_none_iff, Scope.claim_eq_none_iff, Scope.isSpent_congr (awaits.fired c List.mem_cons_self)]
  tail awaits :=
    ⟨awaits.distinct.tail, fun d hd => awaits.given d (List.mem_cons_of_mem _ hd),
      fun d hd => awaits.fired d (List.mem_cons_of_mem _ hd)⟩
  claimed awaits granted := h.awaits_of_claim awaits granted
  keeps awaits edited :=
    ⟨awaits.distinct, fun c hc => Nat.lt_of_lt_of_le (awaits.given c hc) (edited (place c)).next_le,
      fun c hc => ((edited (place c)).fired_eq _).trans (awaits.fired c hc)⟩
  within := edits

end ClaimsIn

open Registry (Step History)

/-- The scopes change by things that happen to expectations, whatever requests are under way; all else may change in any
way. -/
def ActsIn (scope : W → P → Scope α) (w w' : W) : Prop :=
  ∀ chains, ∃ es, History ⟨scope w, chains⟩ es ⟨scope w', chains⟩

section Acts

/-- Editing a scope is a history. -/
theorem Scope.Edited.exists_history {s t : Scope α} (edited : s.Edited t) (r : Registry P α) (place : P)
    (hs : r.scope place = s) : ∃ es, History r es (r.set place t) := by
  have again (u v : Scope α) : (r.set place u).set place v = r.set place v := by simp [Registry.set]
  have there (u : Scope α) : (r.set place u).scope place = u := by simp [Registry.set]
  induction edited with
  | unchanged =>
    refine ⟨[], ?_⟩
    rw [← hs, Registry.set, Function.update_eq_self]
    exact .done r
  | @register u limit content edited ih =>
    obtain ⟨es, history⟩ := ih
    have step := Step.register (r.set place u) place limit content
    rw [there, again] at step
    exact ⟨_, history.trans (.next step (.done _))⟩
  | @erase u handle edited ih =>
    obtain ⟨es, history⟩ := ih
    have step := Step.remove (r.set place u) place handle
    rw [there, again] at step
    exact ⟨_, history.trans (.next step (.done _))⟩
  | @clear u edited ih =>
    obtain ⟨es, history⟩ := ih
    have step := Step.clear (r.set place u) place
    rw [there, again] at step
    exact ⟨_, history.trans (.next step (.done _))⟩

/-- Handlers that edit the scopes of some places act. -/
theorem EditedIn.acts {w w' : W} (edited : EditedIn scope w w') (places : List P)
    (rest : ∀ p ∉ places, scope w' p = scope w p) : ActsIn scope w w' := by
  intro chains
  suffices ∀ s : P → Scope α, (∀ p, (s p).Edited (scope w' p)) → (∀ p ∉ places, scope w' p = s p) →
      ∃ es, History ⟨s, chains⟩ es ⟨scope w', chains⟩ from this (scope w) edited rest
  clear edited rest
  induction places with
  | nil =>
    intro s _ rest
    obtain rfl : scope w' = s := funext fun p => rest p List.not_mem_nil
    exact ⟨[], .done _⟩
  | cons p places ih =>
    intro s edited rest
    obtain ⟨first, history⟩ := (edited p).exists_history ⟨s, chains⟩ p rfl
    -- the scope of this place is now what it becomes in the end
    have done (other : P) : Function.update s p (scope w' p) other = if other = p then scope w' p else s other :=
      Function.update_apply ..
    obtain ⟨later, further⟩ := ih (Function.update s p (scope w' p))
      (fun other => by
        rw [done]
        split
        · rename_i same
          rw [same]
          exact .unchanged
        · exact edited other)
      (fun other ho => by
        rw [done]
        split
        · rename_i same
          rw [same]
        · rename_i differs
          exact rest other (by simp [differs, ho]))
    exact ⟨first ++ later, history.trans further⟩

end Acts

namespace ClaimsIn

variable {claim : C → W → Option W} {chain : Chain C W Q R} {w w' : W} {c : C} {cs rest : List C}
  {chains : List (List (P × Entry α))}

theorem step_refused (h : ClaimsIn claim scope place entry) (refused : claim c w = none) :
    Step ⟨scope w, (c :: rest).map (fun c => (place c, entry c)) :: chains⟩ (.refused (place c) (entry c).handle)
      ⟨scope w, rest.map (fun c => (place c, entry c)) :: chains⟩ :=
  .refuse ⟨scope w, (c :: rest).map (fun c => (place c, entry c)) :: chains⟩
    (show _ = [] ++ ((place c, entry c) :: rest.map fun c => (place c, entry c)) :: chains from rfl)
    (h.claim_eq_none_iff.1 refused)

theorem step_invoked (h : ClaimsIn claim scope place entry) (granted : claim c w = some w') :
    Step ⟨scope w, (c :: rest).map (fun c => (place c, entry c)) :: chains⟩ (.invoked (place c) (entry c).handle)
      ⟨scope w', rest.map (fun c => (place c, entry c)) :: chains⟩ := by
  obtain ⟨s, hs, he⟩ := h.exists_of_claim granted
  rw [he]
  exact .invoke ⟨scope w, (c :: rest).map (fun c => (place c, entry c)) :: chains⟩
    (show _ = [] ++ ((place c, entry c) :: rest.map fun c => (place c, entry c)) :: chains from rfl) hs

/-- What handlers do after the forwarded request was answered, if it was. -/
theorem acts_andThen {outcome : Outcome W R} {resume : W → R → Outcome W R}
    (within : ∀ back result, ActsIn scope back (resume back result).world) :
    ActsIn scope outcome.world (outcome.andThen resume).world := by
  cases outcome with
  | returned back result => exact within back result
  | panicked back message => exact fun chains => ⟨[], .done _⟩

/-- A request runs through its candidates: each is refused or invoked, and the handlers act in between. -/
theorem history_of_reaches (h : ClaimsIn chain.claim scope place entry)
    (acts : ∀ c n w q, (chain.invoke c n w q).Within (ActsIn scope) w) {q : Q} {reached : List (C × Option Bool)}
    {outcome : Outcome W R} (run : chain.Reaches cs w q reached outcome) (chains : List (List (P × Entry α))) :
    ∃ es left, History ⟨scope w, cs.map (fun c => (place c, entry c)) :: chains⟩ es
        ⟨scope outcome.world, left :: chains⟩ ∧
      (reached.map fun c => Event.reached (place c.1) (entry c.1).handle c.2).Sublist es := by
  induction run with
  | unanswered => exact ⟨[], [], .done _, .slnil⟩
  | skips refused _ ih =>
    obtain ⟨es, left, history, sub⟩ := ih
    exact ⟨_, left, .next (h.step_refused refused) history, sub.cons_cons _⟩
  | @finishes c rest w claimed q outcome granted reply =>
    have within := acts c rest.length claimed q
    rw [reply] at within
    obtain ⟨es, history⟩ := within (rest.map (fun c => (place c, entry c)) :: chains)
    exact ⟨_, _, .next (h.step_invoked granted) history, (List.nil_sublist es).cons_cons _⟩
  | @forwards c rest w claimed next q forwarded resume reached outcome granted reply run ih =>
    have within := acts c rest.length claimed q
    rw [reply] at within
    obtain ⟨earlier, history⟩ := within.1 (rest.map (fun c => (place c, entry c)) :: chains)
    obtain ⟨es, left, further, sub⟩ := ih
    have answered : ActsIn scope outcome.world (outcome.andThen resume).world := acts_andThen within.2
    obtain ⟨later, last⟩ := answered (left :: chains)
    -- Before it forwards and after it was answered the handler acts while the rest of the chain is under way.
    refine ⟨_, left, .next (h.step_invoked granted) (history.trans (further.trans last)), ?_⟩
    exact ((sub.trans (List.sublist_append_left es later)).trans (List.sublist_append_right earlier _)).cons_cons _

/-- **A run is a history.** It begins, reaches one candidate after another, and ends. -/
theorem exists_history (h : ClaimsIn chain.claim scope place entry)
    (acts : ∀ c n w q, (chain.invoke c n w q).Within (ActsIn scope) w)
    (listed : ∀ c ∈ cs, entry c ∈ (scope w (place c)).entries) {q : Q} {reached : List (C × Option Bool)}
    {outcome : Outcome W R} (run : chain.Reaches cs w q reached outcome) (chains : List (List (P × Entry α))) :
    ∃ es, History ⟨scope w, chains⟩ es ⟨scope outcome.world, chains⟩ ∧
      (reached.map fun c => Event.reached (place c.1) (entry c.1).handle c.2).Sublist es := by
  obtain ⟨es, left, history, sub⟩ := h.history_of_reaches acts run chains
  have begun : Step ⟨scope w, chains⟩ .begun ⟨scope w, cs.map (fun c => (place c, entry c)) :: chains⟩ := by
    refine .begin ⟨scope w, chains⟩ _ fun c hc => ?_
    obtain ⟨c, member, rfl⟩ := List.mem_map.1 hc
    exact listed c member
  -- If the last handler did not forward, candidates are left over; they are dropped with the chain.
  have ended : Step ⟨scope outcome.world, left :: chains⟩ .ended ⟨scope outcome.world, chains⟩ :=
    .finish ⟨scope outcome.world, left :: chains⟩ (show _ = [] ++ left :: chains from rfl)
  refine ⟨_, .next begun (history.trans (.next ended (.done _))), ?_⟩
  exact (sub.trans (List.sublist_append_left es _)).cons _

end ClaimsIn

end MockCluster
