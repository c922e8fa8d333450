import MockCluster.Binary.Status
import MockCluster.Text.IpAddress

/-!
# Faults

What can go wrong inside the library, with the message for people (`Fault.message`), the messages from the general to
the particular (`Fault.chain`), and the status that tells a binary client about it (`Fault.status`).
-/

namespace MockCluster

/-- The cause of a failure. -/
inductive Fault where
  /-- The node is not part of the cluster. -/
  | unknownNode (node : Nat)
  /-- The bucket does not exist. -/
  | bucketNotFound (bucket : String)
  /-- A bucket of this name exists already. -/
  | bucketExists (bucket : String)
  /-- The topology contradicts itself. -/
  | invalidTopology (message : String)
  /-- The request has a response already; its correlation number is given. -/
  | responseAlreadyWritten (opaqueId : UInt32)
  /-- An expectation lacks a required criterion. -/
  | incompleteExpectation (message : String)
  /-- A listener could not be bound. -/
  | bind (endpoint : Endpoint) (reason : String)
  /-- The server is not running. -/
  | serverClosed (service : String)
  /-- The server is running already. -/
  | alreadyRunning (service : String)
  /-- A handler failed. -/
  | handler (message : String)
  /-- Input or output failed. -/
  | io (reason : String)
  /-- A value has no JSON form. -/
  | serialization (reason : String)
  deriving DecidableEq, Repr

namespace Fault

/-- The message for people. -/
def message : Fault → String
  | unknownNode node => s!"unknown node: node-{node}"
  | bucketNotFound bucket => s!"bucket not found: {bucket}"
  | bucketExists bucket => s!"bucket already exists: {bucket}"
  | invalidTopology message => s!"invalid topology: {message}"
  | responseAlreadyWritten opaqueId =>
    "response already written for opaque 0x" ++ String.ofList (Bytes.hexDigits 8 opaqueId.toNat)
  | incompleteExpectation message => s!"incomplete expectation: {message}"
  | bind endpoint reason => s!"failed to bind {endpoint.toString}: {reason}"
  | serverClosed service => s!"{service} server is not running"
  | alreadyRunning service => s!"{service} server is already running"
  | handler message => s!"handler failed: {message}"
  | io reason => s!"io error: {reason}"
  | serialization reason => s!"serialization error: {reason}"

/-- The message, and behind it what the fault goes back to. -/
def chain (f : Fault) : List String :=
  match f with
  | bind _ reason | io reason | serialization reason => [f.message, reason]
  | _ => [f.message]

/-- The status that describes the fault best to a binary client. -/
def status : Fault → Status
  | bucketNotFound _ => .noBucket
  | unknownNode _ | invalidTopology _ => .internalError
  | serverClosed _ => .tmpFail
  | _ => .unknownCommand

end Fault

end MockCluster
