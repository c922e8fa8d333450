import MockCluster.Kv.Exchange

/-!
# Dispatching packets

A packet runs through the expectations that match it: those of its connection, then the overrides, then the defaults,
in each layer the newest first. The list is fixed when the packet comes in.
-/

namespace MockCluster.Kv

/-- What a handler does: it is given the number of candidates behind it, the exchange and the packet. -/
abbrev Behaviour (H M : Type) :=
  H → Nat → Exchange H M → Packet → Reply (Exchange H M) Packet (Except Fault Unit)

/-- A matching expectation and the layer that it was found in. -/
structure Candidate (H : Type) where
  layer : Layer
  entry : Entry (Rule H)
  deriving DecidableEq, Repr

variable {H M : Type}

/-- The matching expectations of one layer, the newest first. -/
def Exchange.candidatesIn (ex : Exchange H M) (p : Packet) (layer : Layer) : List (Candidate H) :=
  ((ex.scope layer).entries.reverse.filter fun e => e.content.matcher.matches p).map fun e => ⟨layer, e⟩

/-- The matching expectations in the order in which they are tried. -/
def Exchange.candidates (ex : Exchange H M) (p : Packet) : List (Candidate H) :=
  Layer.all.flatMap (ex.candidatesIn p)

/-- Claims a candidate in the layer it was found in. -/
def Candidate.claim (c : Candidate H) (ex : Exchange H M) : Option (Exchange H M) :=
  ((ex.scope c.layer).claim c.entry).map (ex.setScope c.layer)

/-- How candidates are claimed and invoked. -/
def chain (behaviour : Behaviour H M) : Chain (Candidate H) (Exchange H M) Packet (Except Fault Unit) where
  claim := Candidate.claim
  invoke := fun c remaining ex p => behaviour c.entry.content.handler remaining ex p
  unanswered := .ok ()

/-- Runs a packet through its candidates. The result says whether there is a response. -/
def dispatch (behaviour : Behaviour H M) (ex : Exchange H M) (p : Packet) :
    Outcome (Exchange H M) (Except Fault Bool) :=
  match ex.candidates p with
  | [] => .returned ex (.ok false)
  | candidates =>
    ((chain behaviour).run candidates ex p).map fun ex result => result.map fun _ => ex.response.isSome

end MockCluster.Kv
