import MockCluster.Bytes
import MockCluster.Text.Utf8
import MockCluster.Binary.Magic
import MockCluster.Binary.Command
import MockCluster.Binary.Status

/-!
# Packets

The content of one frame. A request carries a vbucket and a response a status; the field of the other direction stays
at its default.
-/

namespace MockCluster

/-- The content of one frame. -/
structure Packet where
  /-- Direction and layout. -/
  magic : Magic
  /-- The operation. -/
  command : Command
  /-- Flags about the encoding of the value. -/
  datatype : UInt8
  /-- The vbucket that a request is for. -/
  vbucket : UInt16
  /-- The result that a response reports. -/
  status : Status
  /-- The number by which a client matches responses to requests. -/
  opaqueId : UInt32
  /-- The version of a document. -/
  cas : UInt64
  /-- Extras that belong to the frame. -/
  framing : Bytes
  /-- Extras that belong to the operation. -/
  extras : Bytes
  /-- The key. -/
  key : Bytes
  /-- The value. -/
  value : Bytes
  deriving DecidableEq, Repr

namespace Packet

/-- The datatype flag of a JSON value. -/
def jsonDatatype : UInt8 := 0x01

/-- An empty request. -/
def request (command : Command) : Packet where
  magic := .req
  command := command
  datatype := 0
  vbucket := 0
  status := .success
  opaqueId := 0
  cas := 0
  framing := []
  extras := []
  key := []
  value := []

/-- An empty successful response, which a client will match to the request. -/
def responseTo (p : Packet) : Packet :=
  { request p.command with magic := .res, opaqueId := p.opaqueId }

/-- Framing extras call for the extended layout. -/
def withFraming (p : Packet) (framing : Bytes) : Packet :=
  { p with framing, magic := .make p.magic.isRequest true }

/-- The number of bytes after the header. -/
def bodyLength (p : Packet) : Nat :=
  p.framing.length + p.extras.length + p.key.length + p.value.length

/-- The bytes after the header. -/
def body (p : Packet) : Bytes := p.framing ++ p.extras ++ p.key ++ p.value

/-- The key as text, if it is UTF-8. -/
def keyText? (p : Packet) : Option String := Utf8.decode? p.key

theorem length_body (p : Packet) : p.body.length = p.bodyLength := by
  simp [body, bodyLength, Nat.add_assoc]

end Packet

end MockCluster
