import MockCluster.Binary.Frame
import MockCluster.Kv.Dispatch

/-!
# Connections

A connection turns received bytes into frames and answers them one after another, in the order in which they came.

| frame | what happens |
| --- | --- |
| a request | it is dispatched; the response is sent, or else the status "unknown command" |
| a request with an opcode that has no name | the status "unknown command" is sent |
| a response, or bytes that are no frame | the connection ends |

A handler that fails or breaks off counts like any other: what it left behind as the response is sent. If a handler
asked to drop the connection, it ends without an answer. Holding a response back takes time and changes nothing else.
-/

namespace MockCluster.Kv

/-- Counts over all connections of a server. -/
structure Metrics where
  /-- Connections that were accepted. -/
  accepted : Nat
  /-- Connections that were accepted and have not ended. -/
  active : Nat
  /-- Requests that were answered with a response of a handler. -/
  handled : Nat
  /-- Requests that no handler wrote a response for. -/
  unhandled : Nat
  deriving DecidableEq, Repr, Inhabited

namespace Metrics

/-- Nothing counted yet. -/
def zero : Metrics := ⟨0, 0, 0, 0⟩

/-- A connection was accepted. -/
def accept (m : Metrics) : Metrics := { m with accepted := m.accepted + 1, active := m.active + 1 }

/-- A connection has ended. -/
def finish (m : Metrics) : Metrics := { m with active := m.active - 1 }

/-- A request was answered with a response of a handler. -/
def countHandled (m : Metrics) : Metrics := { m with handled := m.handled + 1 }

/-- A request was answered although no handler wrote a response. -/
def countUnhandled (m : Metrics) : Metrics := { m with unhandled := m.unhandled + 1 }

end Metrics

/-- The server's side of a connection. -/
structure Connection (H : Type) where
  client : Client H
  /-- The received bytes that no frame was made of yet; none once the connection has ended. -/
  waiting : Option Bytes

namespace Connection

variable {H : Type}

/-- A connection on which nothing was received yet. -/
def create (client : Client H) : Connection H := ⟨client, some []⟩

/-- Whether the connection has ended. -/
def ended (c : Connection H) : Bool := c.waiting.isNone

end Connection

/-- A connection with all that its requests can change. -/
structure Session (H M : Type) where
  connection : Connection H
  shared : Shared H M
  metrics : Metrics

namespace Session

variable {H M : Type}

/-- The connection ends, unless it has ended before. -/
def finish (s : Session H M) : Session H M :=
  match s.connection.waiting with
  | none => s
  | some _ => { s with
      connection := { s.connection with waiting := none }
      metrics := s.metrics.finish }

/-- The connection waits for more bytes after those that it has. -/
def await (s : Session H M) (buffer : Bytes) : Session H M :=
  { s with connection := { s.connection with waiting := some buffer } }

/-- The bytes to send for a request, given the state in which its handlers left off; none if the connection is to be
dropped. -/
def conclude (s : Session H M) (p : Packet) (ex : Exchange H M) : Option Bytes × Session H M :=
  let s := { s with connection := { s.connection with client := ex.client }, shared := ex.shared }
  if ex.disconnect then (none, s)
  else match ex.response with
    | some response => (some response.encode, { s with metrics := s.metrics.countHandled })
    | none =>
      (some ({ p.responseTo with status := .unknownCommand } : Packet).encode,
        { s with metrics := s.metrics.countUnhandled })

/-- Dispatches a request and gives the bytes to send for it; none if the connection is to be dropped. -/
def answerRequest (behaviour : Behaviour H M) (s : Session H M) (p : Packet) : Option Bytes × Session H M :=
  s.conclude p (dispatch behaviour (.start s.connection.client s.shared) p).world

/-- The bytes to send for a frame; none if the connection is to end. -/
def answer (behaviour : Behaviour H M) (s : Session H M) (frame : Frame) : Option Bytes × Session H M :=
  match frame with
  | .unsupported magic opcode opaqueId =>
    if magic.isRequest then
      (some (encodeStatus opcode opaqueId .unknownCommand), { s with metrics := s.metrics.countUnhandled })
    else (none, s)
  | .packet p => if p.magic.isRequest then s.answerRequest behaviour p else (none, s)

/-- Answers the frames of a buffer. Gives the bytes that are sent. -/
def drain (behaviour : Behaviour H M) (s : Session H M) (buffer : Bytes) : Bytes × Session H M :=
  match _hd : decode buffer with
  | .incomplete => ([], s.await buffer)
  | .invalid _ => ([], s.finish)
  | .frame frame size =>
    match s.answer behaviour frame with
    | (none, s) => ([], s.finish)
    | (some sent, s) =>
      let (more, s) := s.drain behaviour (buffer.drop size)
      (sent ++ more, s)
termination_by buffer.length
decreasing_by
  have := size_of_decode _hd
  simp only [List.length_drop]
  have : Header.size = 24 := rfl
  omega

/-- Receives bytes and gives those that are sent in return. A connection that has ended takes nothing. -/
def receive (behaviour : Behaviour H M) (s : Session H M) (data : Bytes) : Bytes × Session H M :=
  match s.connection.waiting with
  | none => ([], s)
  | some buffer => s.drain behaviour (buffer ++ data)

/-- Receives one piece after another. -/
def receiveAll (behaviour : Behaviour H M) (s : Session H M) : List Bytes → Bytes × Session H M
  | [] => ([], s)
  | data :: rest =>
    let (sent, s) := s.receive behaviour data
    let (more, s) := s.receiveAll behaviour rest
    (sent ++ more, s)

theorem drain_incomplete {behaviour : Behaviour H M} {s : Session H M} {buffer : Bytes}
    (h : decode buffer = .incomplete) : s.drain behaviour buffer = ([], s.await buffer) := by
  rw [drain]
  split <;> simp_all

theorem drain_invalid {behaviour : Behaviour H M} {s : Session H M} {buffer : Bytes} {fault : FrameFault}
    (h : decode buffer = .invalid fault) : s.drain behaviour buffer = ([], s.finish) := by
  rw [drain]
  split <;> simp_all

theorem drain_end {behaviour : Behaviour H M} {s next : Session H M} {buffer : Bytes} {frame : Frame} {size : Nat}
    (h : decode buffer = .frame frame size) (ha : s.answer behaviour frame = (none, next)) :
    s.drain behaviour buffer = ([], next.finish) := by
  rw [drain]
  split <;> simp_all

/-- An answered frame is sent before the answers to the frames behind it. -/
theorem drain_step {behaviour : Behaviour H M} {s next : Session H M} {buffer sent : Bytes} {frame : Frame}
    {size : Nat} (h : decode buffer = .frame frame size) (ha : s.answer behaviour frame = (some sent, next)) :
    s.drain behaviour buffer =
      (sent ++ (next.drain behaviour (buffer.drop size)).1, (next.drain behaviour (buffer.drop size)).2) := by
  rw [drain]
  split <;> simp_all

@[simp] theorem waiting_finish (s : Session H M) : s.finish.connection.waiting = none := by
  unfold finish
  split <;> simp_all

theorem receive_of_ended {behaviour : Behaviour H M} {s : Session H M} (h : s.connection.waiting = none)
    (data : Bytes) : s.receive behaviour data = ([], s) := by
  simp [receive, h]

end Session

end MockCluster.Kv
