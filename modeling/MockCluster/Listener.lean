import MockCluster.Fault

/-!
# Listeners

A `Host` knows which endpoints are held and answers requests for endpoints. It may share its endpoints with other
programs, so which requests it grants is open. A `Listener` is what a server has of it: it can be started and closed any
number of times, and once it got a port it asks for that port ever after.
-/

namespace MockCluster

/-- The machine that servers run on. -/
structure Host where
  /-- The endpoints that are held by listeners. -/
  held : List Endpoint
  /-- Whether clients reach the listeners. -/
  reachable : Bool
  /-- The port that a request for an endpoint gets while some endpoints are held, or why it gets none. -/
  grant : List Endpoint → Endpoint → Except String UInt16

namespace Host

/-- Why an endpoint cannot be had that is held already. -/
def inUse : String := "Address already in use (os error 98)"

/-- The ports for those who do not ask for a certain one. -/
def freePorts : List UInt16 := (List.range' 49152 16384).map UInt16.ofNat

/-- What a host grants that no other programs run on: every endpoint that is not held. Port 0 stands for any port. -/
def grantFree (held : List Endpoint) (endpoint : Endpoint) : Except String UInt16 :=
  if endpoint.port = 0 then
    match freePorts.find? fun port => { endpoint with port } ∉ held with
    | some port => .ok port
    | none => .error inUse
  else if endpoint ∈ held then .error inUse
  else .ok endpoint.port

/-- A host that nothing runs on yet. -/
def idle (reachable : Bool) : Host := ⟨[], reachable, grantFree⟩

/-- The port that a request for an endpoint gets now. -/
def bind (host : Host) (endpoint : Endpoint) : Except String UInt16 := host.grant host.held endpoint

/-- A listener begins to hold an endpoint. -/
def hold (host : Host) (endpoint : Endpoint) : Host := { host with held := endpoint :: host.held }

/-- An endpoint is free again. -/
def release (host : Host) (endpoint : Endpoint) : Host := { host with held := host.held.erase endpoint }

/-- Who asks for a certain port gets that one if it is free, and else none. -/
theorem grantFree_eq_ok_iff {held : List Endpoint} {endpoint : Endpoint} {port : UInt16} (hp : endpoint.port ≠ 0) :
    grantFree held endpoint = .ok port ↔ endpoint ∉ held ∧ endpoint.port = port := by
  rw [grantFree, if_neg hp]
  by_cases taken : endpoint ∈ held <;> simp [taken]

end Host

/-- The listener of a server. -/
structure Listener where
  /-- The name of the server in messages. -/
  service : String
  address : IpAddress
  /-- The port that was asked for, or that the first start got. -/
  port : UInt16
  /-- Whether it is started. -/
  running : Bool
  deriving DecidableEq, Repr, Inhabited

namespace Listener

/-- The name of a server that was given none. -/
def unnamed : String := "Unknown Service"

/-- A listener that was never started. -/
def create (service : String) (address : IpAddress) (port : UInt16) : Listener := ⟨service, address, port, false⟩

/-- Where it listens. -/
def endpoint (l : Listener) : Endpoint := { address := l.address, port := l.port }

/-- Starts the listener. `bind` says which port a request for an endpoint gets. -/
def start (bind : Endpoint → Except String UInt16) (l : Listener) : Except Fault Unit × Listener :=
  if l.running then (.error (.alreadyRunning l.service), l)
  else match bind l.endpoint with
    | .error reason => (.error (.bind l.endpoint reason), l)
    | .ok port => (.ok (), { l with port, running := true })

/-- Closes the listener. -/
def close (l : Listener) : Except Fault Unit × Listener :=
  if l.running then (.ok (), { l with running := false }) else (.error (.serverClosed l.service), l)

@[simp] theorem running_create (service : String) (address : IpAddress) (port : UInt16) :
    (create service address port).running = false := rfl

theorem start_of_running {bind : Endpoint → Except String UInt16} {l : Listener} (h : l.running = true) :
    l.start bind = (.error (.alreadyRunning l.service), l) := by
  simp [start, h]

theorem close_of_not_running {l : Listener} (h : l.running = false) :
    l.close = (.error (.serverClosed l.service), l) := by
  simp [close, h]

end Listener

namespace Host

/-- The host after an attempt to start a listener. -/
def afterStart (host : Host) (result : Except Fault Unit) (l : Listener) : Host :=
  match result with
  | .ok () => host.hold l.endpoint
  | .error _ => host

/-- The host after an attempt to close a listener. -/
def afterClose (host : Host) (result : Except Fault Unit) (l : Listener) : Host :=
  match result with
  | .ok () => host.release l.endpoint
  | .error _ => host

/-- Starts a listener on the host. -/
def start (host : Host) (l : Listener) : Except Fault Unit × Host × Listener :=
  let (result, l) := l.start host.bind
  (result, host.afterStart result l, l)

/-- Closes a listener on the host. -/
def close (host : Host) (l : Listener) : Except Fault Unit × Host × Listener :=
  let (result, l) := l.close
  (result, host.afterClose result l, l)

/-- Whether a client that connects to an endpoint is accepted. -/
def accepts (host : Host) (endpoint : Endpoint) : Bool := host.reachable && endpoint ∈ host.held

end Host

/-- What a client meets with that turns to a server. -/
inductive Contact (α : Type) where
  /-- There is no such server. -/
  | nobody
  /-- The connection is refused. -/
  | refused
  /-- The server answers. -/
  | answered (result : α)
  deriving DecidableEq, Repr

/-- A client turns to a listener: the server answers, if the client gets through to it. -/
def Listener.contact {α : Type} (host : Host) (l : Listener) (answer : Unit → Option α) : Contact α :=
  if l.running ∧ host.accepts l.endpoint then
    match answer () with
    | some result => .answered result
    | none => .refused
  else .refused

end MockCluster
