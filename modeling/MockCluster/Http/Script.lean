import MockCluster.Http.Builtin
import MockCluster.Script.Memory

/-!
# Scripted handlers of requests

A script is a list of actions on a current result, which is none at first and is returned at the end. Some actions end
the script without a result. A script forwards its request at most once: later forwardings do nothing.
-/

namespace MockCluster.Http

open MockCluster.Script (Memory Note Managed)

/-- A request to a scope. `S` describes the handler of a new expectation. -/
inductive Manage (S : Type) where
  /-- Registers an expectation, and remembers its handle under a name if one is given. -/
  | register (layer : Layer) (draft : Draft) (name : Option String) (handler : S)
  /-- Removes the expectation whose handle is remembered under a name. -/
  | remove (layer : Layer) (name : String)
  /-- Removes all expectations. -/
  | clear (layer : Layer)
  /-- Counts the expectations. -/
  | count (layer : Layer)

/-- An action of a script. -/
inductive Action where
  /-- Writes a note about the request with some captures. -/
  | log (tag : String) (captures : List String)
  /-- Sets the result. -/
  | respond (response : Response)
  /-- Sets the result to a capture, or ends the script without a result. -/
  | capture (name : String)
  /-- Sets the result to a value in the query, or ends the script without a result. -/
  | query (name : String)
  /-- Sets the result to the value of a header field, or ends the script without a result. -/
  | header (name : String)
  /-- Sets the result to the name of the node. -/
  | node
  /-- Forwards a request, the current one if none is given; the result is what comes back. -/
  | next (request : Option Request)
  /-- Changes the result: another status, more fields, another body. Ends the script if there is no result. -/
  | amend (status : Option UInt16) (headers : List (String × String)) (body : Option Bytes)
  /-- Drops the result. -/
  | nothing
  /-- Breaks off. -/
  | panic (message : String)
  /-- Waits; no answer depends on it. -/
  | sleep (milliseconds : Nat)
  /-- Takes a step on the cluster and notes the reply. -/
  | cluster (step : ClusterStep)
  /-- Changes or looks at a scope and notes the result. -/
  | manage (request : Manage (List Action))
  deriving Inhabited

/-- A list of actions. -/
abbrev Script := List Action

/-- What answers a request. -/
inductive Handler where
  | builtin (route : Builtin)
  | script (actions : Script)

/-- The state that scripts can reach. -/
abbrev ScriptWorld := World Handler Memory

/-- How a script ends. -/
abbrev ScriptOutcome := Outcome ScriptWorld (Option Response)

namespace World

/-- Adds a note to the journal. -/
def note (w : ScriptWorld) (n : Note) : ScriptWorld := { w with memory := w.memory.onRequests (·.note n) }

/-- Takes a step on the cluster. -/
def runStep (w : ScriptWorld) (step : ClusterStep) : Except Fault ClusterReply × ScriptWorld :=
  let (reply, topology, memory) := w.memory.runStep w.topology step
  (reply, { w with topology, memory })

end World

/-- The result of a request to a scope, and the state afterwards. -/
def Manage.run (request : Manage Script) (w : ScriptWorld) : Except Fault Managed × ScriptWorld :=
  match request with
  | register layer draft name actions =>
    match draft.rule (.script actions) with
    | .error fault => (.error fault, w)
    | .ok rule =>
      let (handle, scope) := (w.scope layer).register draft.limit rule
      let w := w.setScope layer scope
      (.ok (.registered handle), { w with memory := w.memory.onRequests (·.remember name handle) })
  | remove layer name =>
    match w.memory.requests.handles.get? name with
    | none => (.ok (.removed false), w)
    | some handle =>
      let scope := w.scope layer
      (.ok (.removed (scope.contains handle)), w.setScope layer (scope.erase handle))
  | clear layer => (.ok .cleared, w.setScope layer (w.scope layer).clear)
  | count layer => (.ok (.counted (w.scope layer).size), w)

/-- What an action leads to. -/
inductive Effect where
  /-- The script goes on with a result. -/
  | goOn (w : ScriptWorld) (result : Option Response)
  /-- The script ends. -/
  | stop (outcome : ScriptOutcome)

/-- Goes on with a text as the result, or ends the script if there is none. -/
def Effect.text? (w : ScriptWorld) : Option String → Effect
  | some text => .goOn w (some (.text 200 text))
  | none => .stop (.returned w none)

/-- What an action does that does not forward. -/
def Action.perform (a : Action) (visit : Visit) (w : ScriptWorld) (r : Request) (result : Option Response) :
    Effect :=
  match a with
  | log tag captures =>
    let seen := captures.map visit.captures.get?
    .goOn (w.note (.request tag visit.node r.method r.path r.query seen w.topology.revision r.body)) result
  | respond response => .goOn w (some response)
  | capture name => .text? w (visit.captures.get? name)
  | query name => .text? w (r.param? name)
  | header name => .text? w (r.headers.get? name)
  | node => .goOn w (some (.text 200 visit.node.name))
  | next _ => .goOn w result
  | amend status headers body =>
    match result with
    | none => .stop (.returned w none)
    | some response =>
      let response := headers.foldl (fun response (name, value) => response.withHeader name value) response
      .goOn w (some { response with
        status := status.getD response.status
        body := body.getD response.body })
  | nothing => .goOn w none
  | panic message => .stop (.panicked w message)
  | sleep _ => .goOn w result
  | cluster step =>
    let (reply, w) := w.runStep step
    .goOn (w.note (.cluster reply w.topology.revision)) result
  | manage request =>
    let (managed, w) := request.run w
    .goOn (w.note (.managedRoutes managed)) result

namespace Script

/-- Runs the actions after the request was forwarded. -/
def runAfter (visit : Visit) : Script → ScriptWorld → Request → Option Response → ScriptOutcome
  | [], w, _, result => .returned w result
  | action :: rest, w, r, result =>
    match action.perform visit w r result with
    | .goOn w result => runAfter visit rest w r result
    | .stop outcome => outcome

/-- Runs a script. -/
def run (visit : Visit) : Script → ScriptWorld → Request → Option Response →
    Reply ScriptWorld Request (Option Response)
  | [], w, _, result => .finished (.returned w result)
  | .next request :: rest, w, r, _ =>
    .forward w (request.getD r) fun w result => runAfter visit rest w r result
  | action :: rest, w, r, result =>
    match action.perform visit w r result with
    | .goOn w result => run visit rest w r result
    | .stop outcome => .finished outcome

end Script

/-- What a handler does. -/
def Handler.behaviour : Behaviour Handler Memory := fun handler visit w r =>
  match handler with
  | .builtin route => .finished (.returned w (route.answer visit w.topology))
  | .script actions => Script.run visit actions w r none

end MockCluster.Http
