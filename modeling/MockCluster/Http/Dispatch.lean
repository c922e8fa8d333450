import MockCluster.Cluster.Topology
import MockCluster.Expectation.Chain
import MockCluster.Expectation.Scope
import MockCluster.Http.Message
import MockCluster.Http.PathPattern

/-!
# Dispatching requests

A request runs through the expectations that match it: the overrides, then the defaults, in each layer the newest
first. The list is fixed when the request comes in, and so are the captures that each handler sees.
-/

namespace MockCluster.Http

/-- A registered expectation: which requests it is for, and what happens then. -/
structure Rule (H : Type) where
  /-- The method; any if not given. -/
  method : Option String
  path : PathPattern
  handler : H
  deriving DecidableEq, Repr

/-- An expectation that is being described. -/
structure Draft where
  method : Option String
  path : Option String
  /-- How often the expectation may fire. -/
  limit : Option Nat
  deriving DecidableEq, Repr, Inhabited

/-- The rule that was described, if the path is known. -/
def Draft.rule {H : Type} (d : Draft) (handler : H) : Except Fault (Rule H) :=
  match d.path with
  | some path => .ok ⟨d.method.map String.toUpper, .ofString path, handler⟩
  | none => .error (.incompleteExpectation "path is required")

/-- The state that handlers of requests can reach. `H` stands for whatever describes a handler, and `M` for a memory
that handlers share. -/
structure World (H M : Type) where
  /-- Expectations that come before the built-in routes. -/
  overrides : Scope (Rule H)
  /-- The built-in routes. -/
  defaults : Scope (Rule H)
  /-- The current topology. -/
  topology : Topology
  /-- The memory of the handlers. -/
  memory : M

/-- The scopes that a request goes through. -/
inductive Layer where
  | overrides
  | defaults
  deriving DecidableEq, Repr, Inhabited

/-- Every layer, in the order in which requests go through them. -/
def Layer.all : List Layer := [overrides, defaults]

/-- What a handler knows about a request besides the request. -/
structure Visit where
  /-- The node that received the request. -/
  node : NodeId
  /-- What the pattern of the handler captured from the path. -/
  captures : NameMap String
  deriving DecidableEq, Repr

/-- What a handler does. -/
abbrev Behaviour (H M : Type) :=
  H → Visit → World H M → Request → Reply (World H M) Request (Option Response)

/-- A matching expectation, the layer it was found in, and what its pattern captured. -/
structure Candidate (H : Type) where
  layer : Layer
  entry : Entry (Rule H)
  captures : NameMap String
  deriving DecidableEq, Repr

variable {H M : Type}

/-- What the pattern of a rule captures from a request that the rule is for. -/
def Rule.match? (rule : Rule H) (r : Request) : Option (NameMap String) :=
  if rule.method.all (·.toLower = r.method.toLower) then rule.path.match? r.path else none

namespace World

/-- The scope of a layer. -/
def scope (w : World H M) : Layer → Scope (Rule H)
  | .overrides => w.overrides
  | .defaults => w.defaults

/-- Replaces the scope of a layer. -/
def setScope (w : World H M) (layer : Layer) (scope : Scope (Rule H)) : World H M :=
  match layer with
  | .overrides => { w with overrides := scope }
  | .defaults => { w with defaults := scope }

/-- The matching expectations of one layer, the newest first. -/
def candidatesIn (w : World H M) (r : Request) (layer : Layer) : List (Candidate H) :=
  (w.scope layer).entries.reverse.filterMap fun e => (e.content.match? r).map (⟨layer, e, ·⟩)

/-- The matching expectations in the order in which they are tried. -/
def candidates (w : World H M) (r : Request) : List (Candidate H) :=
  Layer.all.flatMap (w.candidatesIn r)

end World

/-- Claims a candidate in the layer it was found in. -/
def Candidate.claim (c : Candidate H) (w : World H M) : Option (World H M) :=
  ((w.scope c.layer).claim c.entry).map (w.setScope c.layer)

/-- How candidates are claimed and invoked. -/
def chain (behaviour : Behaviour H M) (node : NodeId) :
    Chain (Candidate H) (World H M) Request (Option Response) where
  claim := Candidate.claim
  invoke := fun c _ w r => behaviour c.entry.content.handler ⟨node, c.captures⟩ w r
  unanswered := none

/-- Runs a request that a node received through its candidates. -/
def dispatch (behaviour : Behaviour H M) (node : NodeId) (w : World H M) (r : Request) :
    Outcome (World H M) (Option Response) :=
  (chain behaviour node).run (w.candidates r) w r

/-- The response that is sent for what became of a request: without a result it says that nothing is implemented,
after a breakdown that there was an internal error. A status that is none is sent as an internal error too, with the
fields and the body as they are. -/
def sent (outcome : Outcome (World H M) (Option Response)) : Response :=
  match outcome with
  | .panicked .. => .create 500
  | .returned _ none => .create 501
  | .returned _ (some r) => if 100 ≤ r.status ∧ r.status ≤ 999 then r else { r with status := 500 }

/-- The longest request body that is accepted: 16 MiB. -/
def maxBody : Nat := 16777216

/-- Answers a request that came in over a connection. A body that is too long is refused before any handler runs. -/
def serve (behaviour : Behaviour H M) (node : NodeId) (w : World H M) (r : Request) : Response × World H M :=
  if maxBody < r.body.length then (.create 400, w)
  else
    let outcome := dispatch behaviour node w r
    (sent outcome, outcome.world)

end MockCluster.Http
