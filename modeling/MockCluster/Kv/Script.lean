import MockCluster.Kv.Builtin
import MockCluster.Script.Memory

/-!
# Scripted handlers of packets

A script is a list of actions. They run in order; the first failure ends the script and is its result, unless the
action says that failures are to be ignored. A script forwards its request at most once: later forwardings do nothing.
-/

namespace MockCluster.Kv

/-- Values for some fields of a packet. -/
structure PacketPatch where
  magic : Option Magic
  command : Option Command
  datatype : Option UInt8
  vbucket : Option UInt16
  status : Option Status
  opaqueId : Option UInt32
  cas : Option UInt64
  framing : Option Bytes
  extras : Option Bytes
  key : Option Bytes
  value : Option Bytes
  deriving DecidableEq, Repr, Inhabited

/-- The packet with the given fields stored over it. -/
def PacketPatch.apply (patch : PacketPatch) (p : Packet) : Packet where
  magic := patch.magic.getD p.magic
  command := patch.command.getD p.command
  datatype := patch.datatype.getD p.datatype
  vbucket := patch.vbucket.getD p.vbucket
  status := patch.status.getD p.status
  opaqueId := patch.opaqueId.getD p.opaqueId
  cas := patch.cas.getD p.cas
  framing := patch.framing.getD p.framing
  extras := patch.extras.getD p.extras
  key := patch.key.getD p.key
  value := patch.value.getD p.value

/-- A request to a scope. `S` describes the handler of a new expectation. -/
inductive Manage (S : Type) where
  /-- Registers an expectation, and remembers its handle under a name if one is given. -/
  | register (layer : Layer) (draft : Draft) (name : Option String) (handler : S)
  /-- Removes the expectation whose handle is remembered under a name. -/
  | remove (layer : Layer) (name : String)
  /-- Removes all expectations. -/
  | clear (layer : Layer)
  /-- Counts the expectations. -/
  | count (layer : Layer)

/-- An action of a script. -/
inductive Action where
  /-- Writes a note about the request. -/
  | log (tag : String)
  /-- Writes a response with some fields set; a number is added to its correlation number. -/
  | write (patch : PacketPatch) (opaqueAdd : UInt32)
  /-- Changes some fields of the response, if there is one. -/
  | amend (patch : PacketPatch)
  /-- Takes the response back. -/
  | take
  /-- Forwards the request with some fields changed. -/
  | next (patch : PacketPatch)
  /-- Holds the response back. -/
  | delay (milliseconds : Nat)
  /-- Drops the connection. -/
  | disconnect
  /-- Fails. -/
  | fail (message : String)
  /-- Breaks off. -/
  | panic (message : String)
  /-- Selects a bucket, whether it exists or not. -/
  | select (bucket : String)
  /-- Selects no bucket. -/
  | deselect
  /-- Sets the user. -/
  | user (name : String)
  /-- Sets the features. -/
  | features (agreed : List Feature)
  /-- Takes a step on the cluster and notes the reply. -/
  | cluster (step : ClusterStep)
  /-- Changes or looks at a scope and notes the result. The handlers of new expectations are scripts: actions, each
  with the word whether its failure is to be ignored. -/
  | manage (request : Manage (List (Action × Bool)))
  deriving Inhabited

/-- Actions, each with the word whether its failure is to be ignored. -/
abbrev Script := List (Action × Bool)

/-- What answers a packet. -/
inductive Handler where
  | builtin (service : Builtin)
  | script (actions : Script)

open MockCluster.Script (Memory Note Managed)

/-- The state during a request that scripts may answer. -/
abbrev ScriptExchange := Exchange Handler Memory

/-- How an action or a script ends. -/
abbrev ScriptOutcome := Outcome ScriptExchange (Except Fault Unit)

namespace Exchange

/-- Adds a note to the journal. -/
def note (ex : ScriptExchange) (n : Note) : ScriptExchange :=
  { ex with shared := { ex.shared with memory := ex.shared.memory.onPackets (·.note n) } }

/-- Takes a step on the cluster. -/
def runStep (ex : ScriptExchange) (step : ClusterStep) : Except Fault ClusterReply × ScriptExchange :=
  let (reply, topology, memory) := ex.shared.memory.runStep ex.shared.topology step
  (reply, { ex with shared := { ex.shared with topology, memory } })

end Exchange

namespace Manage

/-- The result of a request to a scope, and the state afterwards. -/
def run (request : Manage Script) (ex : ScriptExchange) : Except Fault Managed × ScriptExchange :=
  match request with
  | register layer draft name script =>
    match draft.matcher with
    | .error fault => (.error fault, ex)
    | .ok matcher =>
      let (handle, scope) := (ex.scope layer).register draft.limit ⟨matcher, .script script⟩
      let ex := ex.setScope layer scope
      (.ok (.registered handle),
        { ex with shared := { ex.shared with memory := ex.shared.memory.onPackets (·.remember name handle) } })
  | remove layer name =>
    match ex.shared.memory.packets.handles.get? name with
    | none => (.ok (.removed false), ex)
    | some handle =>
      let scope := ex.scope layer
      (.ok (.removed (scope.contains handle)), ex.setScope layer (scope.erase handle))
  | clear layer => (.ok .cleared, ex.setScope layer (ex.scope layer).clear)
  | count layer => (.ok (.counted (ex.scope layer).size), ex)

end Manage

namespace Action

/-- An action that cannot fail. -/
def done (ex : ScriptExchange) : ScriptOutcome := .returned ex (.ok ())

/-- What an action does that does not forward. `remaining` is the number of candidates behind this one, as long as the
script may still forward. -/
def perform (a : Action) (remaining : Option Nat) (ex : ScriptExchange) (p : Packet) : ScriptOutcome :=
  match a with
  | log tag =>
    done (ex.note (.packet tag remaining ex.response.isSome p (ConnectionId.name ex.client.id) ex.client.node))
  | write patch opaqueAdd =>
    let response := patch.apply p.responseTo
    ex.answer { response with opaqueId := response.opaqueId + opaqueAdd }
  | amend patch =>
    match ex.response with
    | none => done ex
    | some response => ex.takeResponse.answer (patch.apply response)
  | take => done ex.takeResponse
  | next _ => done ex
  | delay milliseconds => done { ex with delay := some milliseconds }
  | disconnect => done { ex with disconnect := true }
  | fail message => .returned ex (.error (.handler message))
  | panic message => .panicked ex message
  | select bucket => done { ex with client := { ex.client with bucket := some bucket } }
  | deselect => done { ex with client := { ex.client with bucket := none } }
  | user name => done { ex with client := { ex.client with user := some name } }
  | features agreed =>
    done { ex with client := { ex.client with features := Feature.normalize agreed } }
  | cluster step =>
    let (reply, ex) := ex.runStep step
    done (ex.note (.cluster reply ex.shared.topology.revision))
  | manage request =>
    match request.run ex with
    | (.error fault, ex) => .returned ex (.error fault)
    | (.ok managed, ex) => done (ex.note (.managed managed))

/-- Goes on after an action, unless it failed and the failure is not to be ignored. -/
def proceed (ignore : Bool) (outcome : ScriptOutcome) (goOn : ScriptExchange → ScriptOutcome) : ScriptOutcome :=
  outcome.andThen fun ex result =>
    match result with
    | .ok () => goOn ex
    | .error fault => if ignore then goOn (ex.note (.fault fault)) else .returned ex (.error fault)

end Action

namespace Script

/-- Runs the actions after the request was forwarded. -/
def runAfter : Script → ScriptExchange → Packet → ScriptOutcome
  | [], ex, _ => Action.done ex
  | (action, ignore) :: rest, ex, p =>
    Action.proceed ignore (action.perform none ex p) fun ex => runAfter rest ex p

/-- Runs a script. -/
def run : Script → Nat → ScriptExchange → Packet → Reply ScriptExchange Packet (Except Fault Unit)
  | [], _, ex, _ => .finished (Action.done ex)
  | (.next patch, ignore) :: rest, _, ex, p =>
    .forward ex (patch.apply p) fun ex result =>
      Action.proceed ignore (.returned ex result) fun ex => runAfter rest ex p
  | (action, ignore) :: rest, remaining, ex, p =>
    match action.perform (some remaining) ex p with
    | .returned ex (.ok ()) => run rest remaining ex p
    | .returned ex (.error fault) =>
      if ignore then run rest remaining (ex.note (.fault fault)) p else .finished (.returned ex (.error fault))
    | .panicked ex message => .finished (.panicked ex message)

end Script

/-- What a handler does. -/
def Handler.behaviour : Behaviour Handler Memory := fun handler remaining ex p =>
  match handler with
  | .builtin service => .finished (service.run ex p)
  | .script actions => Script.run actions remaining ex p

end MockCluster.Kv
