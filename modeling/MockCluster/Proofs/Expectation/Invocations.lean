import MockCluster.Expectation.Chain
import MockCluster.Expectation.Scope

/-!
# Which candidates are invoked

`Chain.Reaches` says what a chain does without running it: which candidates a request reaches, what becomes of each, and
how that ends. A chain does what the relation says and nothing else (`Chain.reaches_run`, `Chain.Reaches.outcome_eq`).
Of the candidates that are reached those are invoked that are not spent (`invocations`).

Candidates may change the world while they run. As long as their changes leave alone what decides about the candidates
still to come, the invoked ones are a beginning of one list that was fixed before (`Chain.Reaches.follows`): the first
is invoked, and then one after another for as long as each forwards (`Follows`). Registering, removing and clearing
(`Scope.Edited`) are such changes, because what fired is counted apart from what is registered.
-/

namespace MockCluster

/-- One scope becomes another by registering, removing and clearing. -/
inductive Scope.Edited {α : Type} (s : Scope α) : Scope α → Prop
  | unchanged : Edited s s
  | register {t : Scope α} (limit : Option Nat) (content : α) (edited : Edited s t) :
      Edited s (t.register limit content).2
  | erase {t : Scope α} (handle : Nat) (edited : Edited s t) : Edited s (t.erase handle)
  | clear {t : Scope α} (edited : Edited s t) : Edited s t.clear

namespace Scope.Edited

variable {α : Type} {s t u : Scope α}

theorem trans (first : Edited s t) (second : Edited t u) : Edited s u := by
  induction second with
  | unchanged => exact first
  | register limit content _ ih => exact ih.register limit content
  | erase handle _ ih => exact ih.erase handle
  | clear _ ih => exact ih.clear

/-- Editing fires nothing. -/
theorem fired_eq (h : Edited s t) (handle : Nat) : t.fired handle = s.fired handle := by
  induction h with
  | unchanged => rfl
  | register _ _ _ ih => rw [fired_register, ih]
  | erase _ _ ih => rw [fired_erase, ih]
  | clear _ ih => rw [fired_clear, ih]

/-- A handle that was given is not given again. -/
theorem next_le (h : Edited s t) : s.next ≤ t.next := by
  induction h with
  | unchanged => exact Nat.le_refl _
  | register _ _ _ ih =>
    rw [next_register]
    exact Nat.le_succ_of_le ih
  | erase _ _ ih => exact ih
  | clear _ ih => exact ih

end Scope.Edited

variable {C W Q R : Type}

/-- Whatever an invoked candidate does to the world keeps to a relation: what it does before it ends or forwards the
request, and what it does after the forwarded request was answered. -/
def Reply.Within (rel : W → W → Prop) (world : W) : Reply W Q R → Prop
  | .finished outcome => rel world outcome.world
  | .forward next _ resume => rel world next ∧ ∀ back result, rel back (resume back result).world

theorem Reply.Within.imp {rel rel' : W → W → Prop} (le : ∀ {a b}, rel a b → rel' a b) {world : W}
    {reply : Reply W Q R} (h : reply.Within rel world) : reply.Within rel' world := by
  cases reply with
  | finished => exact le h
  | forward => exact ⟨le h.1, fun back result => le (h.2 back result)⟩

/-- What happens before an invocation may be counted to it. -/
theorem Reply.Within.after {rel : W → W → Prop} (trans : ∀ {a b c}, rel a b → rel b c → rel a c)
    {world next : W} {reply : Reply W Q R} (first : rel world next) (h : reply.Within rel next) :
    reply.Within rel world := by
  cases reply with
  | finished => exact trans first h
  | forward => exact ⟨trans first h.1, h.2⟩

/-- The invoked ones of the candidates that were reached, each with the word whether it forwarded the request. -/
def invocations (reached : List (C × Option Bool)) : List (C × Bool) :=
  reached.filterMap fun c => c.2.map (c.1, ·)

namespace Chain

/-- A request runs through candidates. Those it reaches are listed in order, with the word whether they forwarded the
request if they were invoked at all. -/
inductive Reaches (chain : Chain C W Q R) : List C → W → Q → List (C × Option Bool) → Outcome W R → Prop
  /-- No candidate is left. -/
  | unanswered {world : W} {request : Q} :
      Reaches chain [] world request [] (.returned world chain.unanswered)
  /-- The claim is refused: the candidate is not invoked. -/
  | skips {c : C} {rest : List C} {world : W} {request : Q} {reached : List (C × Option Bool)}
      {outcome : Outcome W R} (refused : chain.claim c world = none)
      (run : Reaches chain rest world request reached outcome) :
      Reaches chain (c :: rest) world request ((c, none) :: reached) outcome
  /-- The candidate is invoked and does not forward. -/
  | finishes {c : C} {rest : List C} {world claimed : W} {request : Q} {outcome : Outcome W R}
      (granted : chain.claim c world = some claimed)
      (reply : chain.invoke c rest.length claimed request = .finished outcome) :
      Reaches chain (c :: rest) world request [(c, some false)] outcome
  /-- The candidate is invoked and forwards a request to those behind it. -/
  | forwards {c : C} {rest : List C} {world claimed next : W} {request forwarded : Q}
      {resume : W → R → Outcome W R} {reached : List (C × Option Bool)} {outcome : Outcome W R}
      (granted : chain.claim c world = some claimed)
      (reply : chain.invoke c rest.length claimed request = .forward next forwarded resume)
      (run : Reaches chain rest next forwarded reached outcome) :
      Reaches chain (c :: rest) world request ((c, some true) :: reached) (outcome.andThen resume)

variable {chain : Chain C W Q R}

/-- **A chain runs as the relation says.** -/
theorem reaches_run (chain : Chain C W Q R) (cs : List C) (world : W) (request : Q) :
    ∃ reached, chain.Reaches cs world request reached (chain.run cs world request) := by
  induction cs generalizing world request with
  | nil => exact ⟨[], .unanswered⟩
  | cons c rest ih =>
    cases granted : chain.claim c world with
    | none =>
      obtain ⟨reached, run⟩ := ih world request
      rw [run_skip granted]
      exact ⟨_, .skips granted run⟩
    | some claimed =>
      cases reply : chain.invoke c rest.length claimed request with
      | finished outcome =>
        rw [run_finished granted reply]
        exact ⟨_, .finishes granted reply⟩
      | forward next forwarded resume =>
        obtain ⟨reached, run⟩ := ih next forwarded
        rw [run_forward granted reply]
        exact ⟨_, .forwards granted reply run⟩

/-- The relation allows nothing but what a chain does. -/
theorem Reaches.outcome_eq {cs : List C} {world : W} {request : Q} {reached : List (C × Option Bool)}
    {outcome : Outcome W R} (h : chain.Reaches cs world request reached outcome) :
    outcome = chain.run cs world request := by
  induction h with
  | unanswered => rfl
  | skips refused _ ih => rw [run_skip refused, ih]
  | finishes granted reply => rw [run_finished granted reply]
  | forwards granted reply _ ih => rw [run_forward granted reply, ih]

end Chain

/-- Calls go through a list from its beginning: the first is called, and the next one if and only if the one before
forwarded. -/
inductive Follows : List C → List (C × Bool) → Prop
  | nothing : Follows [] []
  | stops (c : C) (rest : List C) : Follows (c :: rest) [(c, false)]
  | goesOn {rest : List C} {calls : List (C × Bool)} (c : C) (further : Follows rest calls) :
      Follows (c :: rest) ((c, true) :: calls)

namespace Follows

variable {listed : List C} {calls : List (C × Bool)}

theorem isPrefix (h : Follows listed calls) : calls.map Prod.fst <+: listed := by
  induction h with
  | nothing => exact List.nil_prefix
  | stops c rest => exact ⟨rest, rfl⟩
  | goesOn c _ ih => exact (List.prefix_cons_inj c).2 ih

theorem ne_nil (h : Follows listed calls) (hl : listed ≠ []) : calls ≠ [] := by
  cases h with
  | nothing => exact absurd rfl hl
  | stops => exact List.cons_ne_nil _ _
  | goesOn => exact List.cons_ne_nil _ _

theorem lt_length_iff (h : Follows listed calls) {k : Nat} (hk : k + 1 < listed.length) :
    k + 1 < calls.length ↔ ∃ c, calls[k]? = some (c, true) := by
  induction h generalizing k with
  | nothing => simp at hk
  | stops c rest => cases k <;> simp
  | @goesOn rest calls c further ih =>
    cases k with
    | zero =>
      have hrest : rest ≠ [] := by
        rintro rfl
        simp at hk
      have := List.length_pos_iff.2 (further.ne_nil hrest)
      simpa using this
    | succ k => simpa using ih (by simpa using hk)

end Follows

/-- What decides about the candidates still to come was fixed before: which of them are spent is seen from the
beginning, and stays so while candidates are claimed and change the world in their way. -/
structure Chain.Fixes (chain : Chain C W Q R) (rel : W → W → Prop) (spent : C → Bool)
    (Fixed : List C → W → Prop) : Prop where
  claim_eq_none_iff : ∀ {c rest world}, Fixed (c :: rest) world → (chain.claim c world = none ↔ spent c = true)
  tail : ∀ {c rest world}, Fixed (c :: rest) world → Fixed rest world
  claimed : ∀ {c rest world next}, Fixed (c :: rest) world → chain.claim c world = some next → Fixed rest next
  keeps : ∀ {cs world next}, Fixed cs world → rel world next → Fixed cs next
  within : ∀ c n world request, (chain.invoke c n world request).Within rel world

/-- **The invoked candidates were fixed before.** They follow the list of those that are not spent. -/
theorem Chain.Reaches.follows {chain : Chain C W Q R} {rel : W → W → Prop} {spent : C → Bool}
    {Fixed : List C → W → Prop} (fixes : chain.Fixes rel spent Fixed) {cs : List C} {world : W} {request : Q}
    {reached : List (C × Option Bool)} {outcome : Outcome W R}
    (h : chain.Reaches cs world request reached outcome) (fixed : Fixed cs world) :
    Follows (cs.filter fun c => !spent c) (invocations reached) := by
  induction h with
  | unanswered => exact .nothing
  | @skips c rest world request reached outcome refused _ ih =>
    have hs : spent c = true := (fixes.claim_eq_none_iff fixed).1 refused
    rw [List.filter_cons_of_neg (by simp [hs])]
    exact ih (fixes.tail fixed)
  | @finishes c rest world next request outcome granted reply =>
    have hs : spent c ≠ true := fun hs => by simp [(fixes.claim_eq_none_iff fixed).2 hs] at granted
    rw [List.filter_cons_of_pos (by simpa using hs)]
    exact .stops c _
  | @forwards c rest world next after request forwarded resume reached outcome granted reply _ ih =>
    have hs : spent c ≠ true := fun hs => by simp [(fixes.claim_eq_none_iff fixed).2 hs] at granted
    have hw := fixes.within c rest.length next request
    rw [reply] at hw
    rw [List.filter_cons_of_pos (by simpa using hs)]
    exact .goesOn c (ih (fixes.keeps (fixes.claimed fixed granted) hw.1))

/-- How an invocation ends, given what becomes of requests that it forwards. -/
def Reply.outcome (reply : Reply W Q R) (behind : W → Q → Outcome W R) : Outcome W R :=
  match reply with
  | .finished outcome => outcome
  | .forward world request resume => (behind world request).andThen resume

namespace Chain

variable {chain chain' : Chain C W Q R} {cs : List C} {c : C} {world : W} {request : Q}

theorem run_cons_of_claim {rest : List C} {claimed : W} (granted : chain.claim c world = some claimed) :
    chain.run (c :: rest) world request = (chain.invoke c rest.length claimed request).outcome (chain.run rest) := by
  cases reply : chain.invoke c rest.length claimed request with
  | finished => exact run_finished granted reply
  | forward => exact run_forward granted reply

section Fixed

variable {rel : W → W → Prop} {spent : C → Bool} {Fixed : List C → W → Prop} (fixes : chain.Fixes rel spent Fixed)

include fixes

/-- Nobody answers if all candidates are spent. -/
theorem Fixes.run_eq_unanswered (fixed : Fixed cs world) (none : (cs.filter fun c => !spent c) = []) :
    chain.run cs world request = .returned world chain.unanswered := by
  induction cs with
  | nil => rfl
  | cons c rest ih =>
    have passed : spent c = true := by simpa using List.filter_eq_nil_iff.1 none c List.mem_cons_self
    rw [List.filter_cons_of_neg (by simp [passed])] at none
    rw [run_skip ((fixes.claim_eq_none_iff fixed).2 passed)]
    exact ih (fixes.tail fixed) none

/-- The first candidate that is not spent decides how the request ends. -/
theorem Fixes.run_eq_outcome (fixed : Fixed cs world) (first : (cs.filter fun c => !spent c).head? = some c) :
    ∃ rest claimed, c :: rest <:+ cs ∧ chain.claim c world = some claimed ∧
      chain.run cs world request = (chain.invoke c rest.length claimed request).outcome (chain.run rest) := by
  induction cs with
  | nil => cases first
  | cons d rest ih =>
    cases granted : chain.claim d world with
    | none =>
      have passed := (fixes.claim_eq_none_iff fixed).1 granted
      rw [List.filter_cons_of_neg (by simp [passed])] at first
      obtain ⟨behind, claimed, suffix, hc, run⟩ := ih (fixes.tail fixed) first
      rw [run_skip granted]
      exact ⟨behind, claimed, suffix.trans (List.suffix_cons d rest), hc, run⟩
    | some claimed =>
      have ready : spent d ≠ true := fun passed => by
        simp [(fixes.claim_eq_none_iff fixed).2 passed] at granted
      rw [List.filter_cons_of_pos (by simpa using ready)] at first
      obtain rfl := Option.some.inj first
      exact ⟨rest, claimed, List.suffix_refl _, granted, run_cons_of_claim granted⟩

/-- What candidates do that are not among those fixed before does not matter. -/
theorem Fixes.run_congr (claim : chain'.claim = chain.claim) (unanswered : chain'.unanswered = chain.unanswered)
    (fixed : Fixed cs world)
    (agree : ∀ c ∈ cs.filter (fun c => !spent c), ∀ n w q, chain'.invoke c n w q = chain.invoke c n w q) :
    chain'.run cs world request = chain.run cs world request := by
  induction cs generalizing world request with
  | nil => rw [run_nil, run_nil, unanswered]
  | cons c rest ih =>
    cases granted : chain.claim c world with
    | none =>
      have passed := (fixes.claim_eq_none_iff fixed).1 granted
      rw [List.filter_cons_of_neg (by simp [passed])] at agree
      rw [run_skip granted, run_skip ((congrFun (congrFun claim c) world).trans granted)]
      exact ih (fixes.tail fixed) agree
    | some claimed =>
      have ready : spent c ≠ true := fun passed => by
        simp [(fixes.claim_eq_none_iff fixed).2 passed] at granted
      rw [List.filter_cons_of_pos (by simpa using ready), List.forall_mem_cons] at agree
      have within := fixes.within c rest.length claimed request
      rw [run_cons_of_claim granted, run_cons_of_claim ((congrFun (congrFun claim c) world).trans granted), agree.1]
      cases reply : chain.invoke c rest.length claimed request with
      | finished outcome => rfl
      | forward next forwarded resume =>
        rw [reply] at within
        have fixedRest := fixes.keeps (fixes.claimed fixed granted) within.1
        exact congrArg (Outcome.andThen · resume) (ih fixedRest agree.2)

end Fixed

/-- Either every candidate is passed over, or the first one that is not decides how the request ends. -/
theorem run_cases (chain : Chain C W Q R) (cs : List C) (world : W) (request : Q) :
    ((∀ c ∈ cs, chain.claim c world = none) ∧
      chain.run cs world request = .returned world chain.unanswered) ∨
    ∃ passed c rest claimed, cs = passed ++ c :: rest ∧ (∀ d ∈ passed, chain.claim d world = none) ∧
      chain.claim c world = some claimed ∧
      chain.run cs world request = (chain.invoke c rest.length claimed request).outcome (chain.run rest) := by
  induction cs with
  | nil => exact .inl ⟨fun c hc => absurd hc List.not_mem_nil, rfl⟩
  | cons d rest ih =>
    cases granted : chain.claim d world with
    | some claimed =>
      exact .inr ⟨[], d, rest, claimed, rfl, fun c hc => absurd hc List.not_mem_nil, granted,
        run_cons_of_claim granted⟩
    | none =>
      rw [run_skip granted]
      obtain ⟨refused, run⟩ | ⟨passed, c, behind, claimed, rfl, refused, hc, run⟩ := ih
      · exact .inl ⟨List.forall_mem_cons.2 ⟨granted, refused⟩, run⟩
      · exact .inr ⟨d :: passed, c, behind, claimed, rfl, List.forall_mem_cons.2 ⟨granted, refused⟩, hc, run⟩

/-- What claims and candidates keep, whole runs keep. -/
theorem keeps_run {Inv : W → Prop} (claim : ∀ {c w w'}, chain.claim c w = some w' → Inv w → Inv w')
    (invoke : ∀ c n w q, (chain.invoke c n w q).Within (fun w w' => Inv w → Inv w') w) (inv : Inv world) :
    Inv (chain.run cs world request).world := by
  induction cs generalizing world request with
  | nil => exact inv
  | cons c rest ih =>
    cases granted : chain.claim c world with
    | none =>
      rw [run_skip granted]
      exact ih inv
    | some claimed =>
      have within := invoke c rest.length claimed request
      rw [run_cons_of_claim granted]
      cases reply : chain.invoke c rest.length claimed request with
      | finished outcome =>
        rw [reply] at within
        exact within (claim granted inv)
      | forward next forwarded resume =>
        rw [reply] at within
        have answered : Inv (chain.run rest next forwarded).world := ih (within.1 (claim granted inv))
        simp only [Reply.outcome]
        cases behind : chain.run rest next forwarded with
        | returned back result =>
          rw [behind] at answered
          exact within.2 back result answered
        | panicked back message =>
          rw [behind] at answered
          exact answered

end Chain

section Through

variable {V : Type} (f : V → W)

/-- How an invocation ends, in a world that is looked at through a function. -/
def Outcome.through : Outcome V R → Outcome W R
  | .returned world result => .returned (f world) result
  | .panicked world message => .panicked (f world) message

theorem Outcome.world_through (outcome : Outcome V R) : (outcome.through f).world = f outcome.world := by
  cases outcome <;> rfl

/-- Two replies are the same through a function, at once and after every answer to a forwarded request. -/
inductive Reply.Shows : Reply V Q R → Reply W Q R → Prop
  | finished (outcome : Outcome V R) : Shows (.finished outcome) (.finished (outcome.through f))
  | forward (world : V) (request : Q) {resume : V → R → Outcome V R} {resume' : W → R → Outcome W R}
      (same : ∀ back result, (resume back result).through f = resume' (f back) result) :
      Shows (.forward world request resume) (.forward (f world) request resume')

/-- A chain runs as another one if its candidates are claimed and reply as the other ones do. -/
theorem Chain.through_run {chain : Chain C V Q R} {chain' : Chain C W Q R}
    (claim : ∀ c world, (chain.claim c world).map f = chain'.claim c (f world))
    (invoke : ∀ c n world request, (chain.invoke c n world request).Shows f (chain'.invoke c n (f world) request))
    (unanswered : chain.unanswered = chain'.unanswered) (cs : List C) (world : V) (request : Q) :
    (chain.run cs world request).through f = chain'.run cs (f world) request := by
  induction cs generalizing world request with
  | nil => exact congrArg (Outcome.returned (f world)) unanswered
  | cons c rest ih =>
    have claims := claim c world
    cases granted : chain.claim c world with
    | none =>
      rw [granted] at claims
      rw [run_skip granted, run_skip claims.symm]
      exact ih world request
    | some claimed =>
      rw [granted] at claims
      rw [run_cons_of_claim granted, run_cons_of_claim claims.symm]
      have shows := invoke c rest.length claimed request
      generalize chain.invoke c rest.length claimed request = reply at shows ⊢
      generalize chain'.invoke c rest.length (f claimed) request = reply' at shows ⊢
      cases shows with
      | finished outcome => rfl
      | forward next forwarded same =>
        simp only [Reply.outcome]
        rw [← ih next forwarded]
        cases chain.run rest next forwarded with
        | returned back result => exact same back result
        | panicked => rfl

end Through

end MockCluster
