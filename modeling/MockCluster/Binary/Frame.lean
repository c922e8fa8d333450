import MockCluster.Binary.Packet

/-!
# Frames

A frame is a header of 24 bytes and a body.

| offset | plain header | extended header |
| ---: | --- | --- |
| 0 | magic | magic |
| 1 | opcode | opcode |
| 2 | key length, 2 bytes | framing length, 1 byte; key length, 1 byte |
| 4 | extras length | extras length |
| 5 | datatype | datatype |
| 6 | vbucket or status | vbucket or status |
| 8 | body length, 4 bytes | body length, 4 bytes |
| 12 | correlation number | correlation number |
| 16 | version, 8 bytes | version, 8 bytes |

The body holds framing extras, extras, key and value. `decode` cuts one frame off the front of a byte string,
`decodeAll` as many as there are, and `encode` writes one.
-/

namespace MockCluster

/-- Why bytes are no frame. -/
inductive FrameFault where
  /-- The first byte is no magic. -/
  | badMagic (byte : UInt8)
  /-- The body is longer than any body may be. -/
  | tooLong (length : Nat)
  /-- The parts of the body are longer than the body. -/
  | overrun (length needed : Nat)
  /-- A response with a status that has no name. -/
  | unknownStatus (code : UInt16)
  deriving DecidableEq, Repr

/-- The content of a header. -/
structure Header where
  magic : Magic
  opcode : UInt8
  framingLength : Nat
  keyLength : Nat
  extrasLength : Nat
  datatype : UInt8
  /-- The vbucket of a request, the status of a response. -/
  vbucketOrStatus : UInt16
  bodyLength : Nat
  opaqueId : UInt32
  cas : UInt64
  deriving DecidableEq, Repr

/-- A frame that was cut off a byte string. -/
inductive Frame where
  /-- A frame with a named opcode. -/
  | packet (packet : Packet)
  /-- A frame with an opcode that has no name; its body is not looked at. -/
  | unsupported (magic : Magic) (opcode : UInt8) (opaqueId : UInt32)
  deriving DecidableEq, Repr

/-- What stands at the front of a byte string. -/
inductive Decoded where
  /-- A frame and the number of bytes it takes. -/
  | frame (frame : Frame) (size : Nat)
  /-- The beginning of a frame. -/
  | incomplete
  /-- No frame, whatever follows. -/
  | invalid (fault : FrameFault)
  deriving DecidableEq, Repr

namespace FrameFault

/-- The longest body that is accepted: 20 MiB. -/
def maxBody : Nat := 20971520

/-- The message for people. -/
def message : FrameFault → String
  | badMagic byte => "invalid magic: 0x" ++ String.ofList (Bytes.hexDigits 2 byte.toNat)
  | tooLong length => s!"body length {length} exceeds limit {maxBody}"
  | overrun length needed => s!"body length {length} shorter than framing+extras+key {needed}"
  | unknownStatus code => "unknown status: 0x" ++ String.ofList (Bytes.hexDigits 4 code.toNat)

end FrameFault

namespace Header

/-- The size of every header. -/
def size : Nat := 24

/-- The number in the `width` bytes from `offset` on. -/
def field (offset width : Nat) (bytes : Bytes) : Nat :=
  Bytes.ofBigEndian ((bytes.drop offset).take width)

/-- The header in 24 bytes that begin with the given magic. -/
def read (magic : Magic) (bytes : Bytes) : Header where
  magic := magic
  opcode := UInt8.ofNat (field 1 1 bytes)
  framingLength := if magic.isExtended then field 2 1 bytes else 0
  keyLength := if magic.isExtended then field 3 1 bytes else field 2 2 bytes
  extrasLength := field 4 1 bytes
  datatype := UInt8.ofNat (field 5 1 bytes)
  vbucketOrStatus := UInt16.ofNat (field 6 2 bytes)
  bodyLength := field 8 4 bytes
  opaqueId := UInt32.ofNat (field 12 4 bytes)
  cas := UInt64.ofNat (field 16 8 bytes)

/-- The 24 bytes of a header. A length that does not fit its place loses its high digits. -/
def write (h : Header) : Bytes :=
  [h.magic.code, h.opcode]
    ++ (if h.magic.isExtended then Bytes.bigEndian 1 h.framingLength ++ Bytes.bigEndian 1 h.keyLength
        else Bytes.bigEndian 2 h.keyLength)
    ++ Bytes.bigEndian 1 h.extrasLength
    ++ [h.datatype]
    ++ Bytes.bigEndian 2 h.vbucketOrStatus.toNat
    ++ Bytes.bigEndian 4 h.bodyLength
    ++ Bytes.bigEndian 4 h.opaqueId.toNat
    ++ Bytes.bigEndian 8 h.cas.toNat

theorem length_write (h : Header) : h.write.length = size := by
  unfold write size
  split <;> simp

/-- The length that framing extras, extras and key need. -/
def partsLength (h : Header) : Nat := h.framingLength + h.extrasLength + h.keyLength

/-- The packet of a header and its body, given the operation and the status. -/
def toPacket (h : Header) (command : Command) (status : Status) (body : Bytes) : Packet where
  magic := h.magic
  command := command
  datatype := h.datatype
  vbucket := if h.magic.isRequest then h.vbucketOrStatus else 0
  status := status
  opaqueId := h.opaqueId
  cas := h.cas
  framing := body.take h.framingLength
  extras := (body.drop h.framingLength).take h.extrasLength
  key := (body.drop (h.framingLength + h.extrasLength)).take h.keyLength
  value := body.drop h.partsLength

/-- The status that a header announces; a request always succeeds. -/
def status? (h : Header) : Option Status :=
  if h.magic.isRequest then some .success else Status.ofCode? h.vbucketOrStatus

/-- The frame of a header and a body of the announced length. -/
def decodeBody (h : Header) (body : Bytes) : Decoded :=
  if h.bodyLength < h.partsLength then .invalid (.overrun h.bodyLength h.partsLength)
  else match Command.ofCode? h.opcode with
    | none => .frame (.unsupported h.magic h.opcode h.opaqueId) (size + h.bodyLength)
    | some command => match h.status? with
      | none => .invalid (.unknownStatus h.vbucketOrStatus)
      | some status => .frame (.packet (h.toPacket command status body)) (size + h.bodyLength)

end Header

namespace Decoded

/-- The frame at the front of `rest`, once the 24 bytes `head` of its header are there. -/
def ofHead (head rest : Bytes) : Decoded :=
  match Magic.ofCode? (head.headD 0) with
  | none => .invalid (.badMagic (head.headD 0))
  | some magic =>
    let h := Header.read magic head
    if FrameFault.maxBody < h.bodyLength then .invalid (.tooLong h.bodyLength)
    else
      let body := rest.take h.bodyLength
      if body.length < h.bodyLength then .incomplete else h.decodeBody body

end Decoded

/-- What stands at the front of `data`. -/
def decode (data : Bytes) : Decoded :=
  let head := data.take Header.size
  if head.length < Header.size then .incomplete else .ofHead head (data.drop Header.size)

namespace Packet

/-- The header of a packet. The layout is the extended one exactly if there are framing extras. -/
def header (p : Packet) : Header where
  magic := .make p.magic.isRequest (!p.framing.isEmpty)
  opcode := p.command.code
  framingLength := p.framing.length
  keyLength := p.key.length
  extrasLength := p.extras.length
  datatype := p.datatype
  vbucketOrStatus := if p.magic.isRequest then p.vbucket else p.status.code
  bodyLength := p.bodyLength
  opaqueId := p.opaqueId
  cas := p.cas

/-- The frame of a packet. -/
def encode (p : Packet) : Bytes := p.header.write ++ p.body

/-- The frame of a packet after what a buffer holds already. -/
def encodeOnto (buffer : Bytes) (p : Packet) : Bytes := buffer ++ p.encode

end Packet

/-- A response without a body, for an opcode that may have no name. -/
def encodeStatus (opcode : UInt8) (opaqueId : UInt32) (status : Status) : Bytes :=
  Header.write
    { magic := .res, opcode, framingLength := 0, keyLength := 0, extrasLength := 0, datatype := 0
      vbucketOrStatus := status.code, bodyLength := 0, opaqueId, cas := 0 }

theorem Header.size_of_decodeBody {h : Header} {body : Bytes} {frame : Frame} {size : Nat}
    (hd : h.decodeBody body = .frame frame size) : size = Header.size + h.bodyLength := by
  unfold Header.decodeBody at hd
  split at hd
  · cases hd
  · split at hd
    · cases hd; rfl
    · split at hd
      · cases hd
      · cases hd; rfl

theorem Decoded.size_of_ofHead {head rest : Bytes} {frame : Frame} {size : Nat}
    (hd : Decoded.ofHead head rest = .frame frame size) :
    Header.size ≤ size ∧ size ≤ Header.size + rest.length := by
  unfold Decoded.ofHead at hd
  split at hd
  · cases hd
  · simp only [List.length_take] at hd
    split at hd
    · cases hd
    · split at hd
      · cases hd
      · have := Header.size_of_decodeBody hd
        omega

/-- Every frame takes at least a header and no more than what is there. -/
theorem size_of_decode {data : Bytes} {frame : Frame} {size : Nat} (hd : decode data = .frame frame size) :
    Header.size ≤ size ∧ size ≤ data.length := by
  unfold decode at hd
  simp only [List.length_take] at hd
  split at hd
  · cases hd
  · have := Decoded.size_of_ofHead hd
    simp only [List.length_drop] at this
    omega

/-- Why decoding stopped. -/
inductive Stop where
  /-- No further frame is complete. -/
  | incomplete
  /-- What follows is no frame. -/
  | invalid (fault : FrameFault)
  deriving DecidableEq, Repr

/-- The frames of a byte string. -/
structure Frames where
  /-- The frames with their sizes, in order. -/
  frames : List (Frame × Nat)
  /-- Why there are no more. -/
  stop : Stop
  /-- The bytes after the last frame. -/
  left : Bytes
  deriving DecidableEq, Repr

/-- Cuts off frames until there is no complete one. -/
def decodeAll (data : Bytes) : Frames :=
  match _hd : decode data with
  | .incomplete => ⟨[], .incomplete, data⟩
  | .invalid fault => ⟨[], .invalid fault, data⟩
  | .frame frame size =>
    let more := decodeAll (data.drop size)
    { more with frames := (frame, size) :: more.frames }
termination_by data.length
decreasing_by
  have := size_of_decode _hd
  simp only [List.length_drop]
  have : Header.size = 24 := rfl
  omega

theorem decodeAll_incomplete {data : Bytes} (h : decode data = .incomplete) :
    decodeAll data = ⟨[], .incomplete, data⟩ := by
  rw [decodeAll]
  split <;> simp_all

theorem decodeAll_invalid {data : Bytes} {fault : FrameFault} (h : decode data = .invalid fault) :
    decodeAll data = ⟨[], .invalid fault, data⟩ := by
  rw [decodeAll]
  split <;> simp_all

theorem decodeAll_frame {data : Bytes} {frame : Frame} {size : Nat} (h : decode data = .frame frame size) :
    decodeAll data =
      { decodeAll (data.drop size) with frames := (frame, size) :: (decodeAll (data.drop size)).frames } := by
  rw [decodeAll]
  split <;> simp_all

end MockCluster
