/-!
# Chains

A request runs through a list of candidates that was fixed when the request came in. The first candidate that can be
claimed is invoked. It may finish at once, or forward a request to the candidates behind it and go on when they have
answered; its `Reply` has room for one forwarding only. What the candidates do to the world while they run (`W` is any
state they can reach) changes neither which candidates remain nor their order.
-/

namespace MockCluster

/-- How an invocation ends. -/
inductive Outcome (W R : Type) where
  /-- It gave a result. -/
  | returned (world : W) (result : R)
  /-- It broke off. -/
  | panicked (world : W) (message : String)
  deriving Repr

/-- What an invoked candidate does. -/
inductive Reply (W Q R : Type) where
  /-- It ends. -/
  | finished (outcome : Outcome W R)
  /-- It forwards a request, and goes on with the result. -/
  | forward (world : W) (request : Q) (resume : W → R → Outcome W R)

namespace Outcome

variable {W R S : Type}

/-- The world afterwards. -/
def world : Outcome W R → W
  | returned world _ => world
  | panicked world _ => world

/-- Changes the result, with a look at the world. -/
def map (f : W → R → S) : Outcome W R → Outcome W S
  | returned world result => returned world (f world result)
  | panicked world message => panicked world message

/-- Goes on after a result. -/
def andThen (o : Outcome W R) (f : W → R → Outcome W S) : Outcome W S :=
  match o with
  | returned world result => f world result
  | panicked world message => panicked world message

end Outcome

/-- How the candidates of a chain are claimed and invoked. -/
structure Chain (C W Q R : Type) where
  /-- The world in which a candidate is about to be invoked; none if it must be skipped. -/
  claim : C → W → Option W
  /-- What a candidate does with a request, given the number of candidates behind it. -/
  invoke : C → Nat → W → Q → Reply W Q R
  /-- The result when no candidate is left. -/
  unanswered : R

namespace Chain

variable {C W Q R : Type}

/-- Runs a request through the candidates. -/
def run (chain : Chain C W Q R) : List C → W → Q → Outcome W R
  | [], world, _ => .returned world chain.unanswered
  | c :: rest, world, request =>
    match chain.claim c world with
    | none => chain.run rest world request
    | some world =>
      match chain.invoke c rest.length world request with
      | .finished outcome => outcome
      | .forward world request resume => (chain.run rest world request).andThen resume

@[simp] theorem run_nil (chain : Chain C W Q R) (world : W) (request : Q) :
    chain.run [] world request = .returned world chain.unanswered := rfl

theorem run_skip {chain : Chain C W Q R} {c : C} {world : W} (h : chain.claim c world = none)
    (rest : List C) (request : Q) : chain.run (c :: rest) world request = chain.run rest world request := by
  simp [run, h]

theorem run_finished {chain : Chain C W Q R} {c : C} {rest : List C} {world claimed : W} {request : Q}
    {outcome : Outcome W R} (h : chain.claim c world = some claimed)
    (hi : chain.invoke c rest.length claimed request = .finished outcome) :
    chain.run (c :: rest) world request = outcome := by
  simp [run, h, hi]

theorem run_forward {chain : Chain C W Q R} {c : C} {rest : List C} {world claimed next : W}
    {request forwarded : Q} {resume : W → R → Outcome W R} (h : chain.claim c world = some claimed)
    (hi : chain.invoke c rest.length claimed request = .forward next forwarded resume) :
    chain.run (c :: rest) world request = (chain.run rest next forwarded).andThen resume := by
  simp [run, h, hi]

end Chain

end MockCluster
