import MockCluster.Proofs.Frame.Header
import MockCluster.Proofs.Frame.Prefix

/-!
# Frames written and read back

A packet whose body is not too long always reads back as one whole frame, whatever follows it: a part that is too long
for its length field moves bytes into the parts behind it and never out of the frame. What is carried unharmed is
decided by `Packet.Canonical` alone.

The other way round, a frame that was read is written with the same bytes. The one exception is an extended header
without framing extras: a packet without framing extras is written with the plain header, so that the magic changes.
-/

namespace MockCluster

/-- A packet that a frame carries unchanged: every part fits its length field, the layout is the one that the framing
extras call for, and the field of the other direction is at its default. -/
structure Packet.Canonical (p : Packet) : Prop where
  framing_length : p.framing.length ≤ 255
  extras_length : p.extras.length ≤ 255
  key_length : p.key.length ≤ 65535
  key_length_of_framing : p.framing ≠ [] → p.key.length ≤ 255
  isExtended_iff : p.magic.isExtended = true ↔ p.framing ≠ []
  status_of_request : p.magic.isRequest = true → p.status = .success
  vbucket_of_response : p.magic.isRequest = false → p.vbucket = 0

/-- What a packet that was written has in common with the packet that is read back. -/
structure Packet.CarriedAs (p q : Packet) : Prop where
  isRequest : q.magic.isRequest = p.magic.isRequest
  command : q.command = p.command
  datatype : q.datatype = p.datatype
  opaqueId : q.opaqueId = p.opaqueId
  cas : q.cas = p.cas
  vbucket : p.magic.isRequest = true → q.vbucket = p.vbucket
  status : p.magic.isRequest = false → q.status = p.status
  /-- The parts may be cut elsewhere, but they hold the same bytes. -/
  parts : q.framing ++ q.extras ++ q.key ++ q.value = p.framing ++ p.extras ++ p.key ++ p.value

@[simp] theorem Magic.isRequest_make (isRequest isExtended : Bool) :
    (make isRequest isExtended).isRequest = isRequest := by
  cases isRequest <;> cases isExtended <;> rfl

@[simp] theorem Magic.isExtended_make (isRequest isExtended : Bool) :
    (make isRequest isExtended).isExtended = isExtended := by
  cases isRequest <;> cases isExtended <;> rfl

namespace Header

/-- Cutting a body into its parts loses nothing, wherever the cuts are. -/
theorem body_toPacket (h : Header) (command : Command) (status : Status) (body : Bytes) :
    (h.toPacket command status body).body = body := by
  have hparts : h.partsLength = h.framingLength + h.extrasLength + h.keyLength := rfl
  simp only [toPacket, Packet.body, hparts]
  rw [← List.take_add, ← List.take_add, List.take_append_drop]

theorem lengths_toPacket {h : Header} {body : Bytes} (hb : h.partsLength ≤ body.length) (command : Command)
    (status : Status) :
    (h.toPacket command status body).framing.length = h.framingLength ∧
      (h.toPacket command status body).extras.length = h.extrasLength ∧
      (h.toPacket command status body).key.length = h.keyLength := by
  simp only [partsLength] at hb
  simp only [toPacket, List.length_take, List.length_drop]
  omega

theorem decodeBody_of_le {h : Header} (hparts : h.partsLength ≤ h.bodyLength) {command : Command}
    (hc : Command.ofCode? h.opcode = some command) {status : Status} (hs : h.status? = some status)
    (body : Bytes) :
    h.decodeBody body = .frame (.packet (h.toPacket command status body)) (size + h.bodyLength) := by
  rw [decodeBody, if_neg (by omega)]
  simp only [hc, hs]

end Header

/-- A written header in front of a body of the announced length begins a frame. -/
theorem decode_write_append {h : Header} (hmax : h.stored.bodyLength ≤ FrameFault.maxBody) {body : Bytes}
    (hbody : body.length = h.stored.bodyLength) (tail : Bytes) :
    decode (h.write ++ body ++ tail) = h.stored.decodeBody body := by
  have hl := h.length_write
  rw [List.append_assoc, decode, List.take_left' hl, List.drop_left' hl]
  simp only [hl, Nat.lt_irrefl, if_false, Decoded.ofHead, h.headD_write, Magic.ofCode?_code, h.read_write]
  rw [if_neg (by omega), List.take_left' hbody, if_neg (by omega)]

namespace Packet

/-- The packet that the frame of a packet carries. -/
def carried (p : Packet) : Packet :=
  p.header.stored.toPacket p.command (if p.magic.isRequest then .success else p.status) p.body

theorem status?_stored_header (p : Packet) :
    p.header.stored.status? = some (if p.magic.isRequest then .success else p.status) := by
  unfold Header.status? Header.stored header
  cases p.magic.isRequest <;> simp

/-- Reduced lengths never need more than the body. -/
theorem partsLength_stored_header_le (p : Packet) : p.header.stored.partsLength ≤ p.bodyLength := by
  have hf := Nat.mod_le p.framing.length 256
  have he := Nat.mod_le p.extras.length 256
  have hk := Nat.mod_le p.key.length 256
  have hk' := Nat.mod_le p.key.length 65536
  unfold Header.partsLength Header.stored bodyLength
  cases p.header.magic.isExtended <;> simp only [header, if_true, Bool.false_eq_true, if_false] <;> omega

theorem isExtended_header (p : Packet) : p.header.magic.isExtended = true ↔ p.framing ≠ [] := by
  simp [header]

/-- Nothing is cut off the lengths of a canonical packet. -/
theorem Canonical.stored_header {p : Packet} (hp : p.Canonical) :
    p.header.stored.framingLength = p.framing.length ∧ p.header.stored.extrasLength = p.extras.length ∧
      p.header.stored.keyLength = p.key.length := by
  have hf := hp.framing_length
  have he := hp.extras_length
  have hk := hp.key_length
  have hextras : p.header.stored.extrasLength = p.extras.length :=
    Nat.mod_eq_of_lt (show p.extras.length < 256 by omega)
  by_cases hx : p.framing = []
  · refine ⟨by simp [Header.stored, header, hx], hextras, ?_⟩
    simpa [Header.stored, header, hx] using by omega
  · have hk' := hp.key_length_of_framing hx
    refine ⟨?_, hextras, ?_⟩
    · simpa [Header.stored, header, hx] using by omega
    · simpa [Header.stored, header, hx] using by omega

theorem Canonical.magic_header {p : Packet} (hp : p.Canonical) : p.header.magic = p.magic := by
  have hx : (!p.framing.isEmpty) = p.magic.isExtended := by
    rw [Bool.eq_iff_iff, hp.isExtended_iff]
    simp
  rw [header, hx, Magic.make_isRequest_isExtended]

theorem Canonical.carried_eq {p : Packet} (hp : p.Canonical) : p.carried = p := by
  obtain ⟨hf, he, hk⟩ := hp.stored_header
  have hmagic : p.header.stored.magic = p.magic := hp.magic_header
  have hvbucket : (if p.magic.isRequest then p.header.stored.vbucketOrStatus else 0) = p.vbucket := by
    cases hr : p.magic.isRequest with
    | true => simp [Header.stored, header, hr]
    | false => simp [hp.vbucket_of_response hr]
  have hstatus : (if p.magic.isRequest then .success else p.status) = p.status := by
    cases hr : p.magic.isRequest with
    | true => simp [hp.status_of_request hr]
    | false => simp
  have hframing : p.body.take p.framing.length = p.framing := by
    simp [body]
  have hextras : (p.body.drop p.framing.length).take p.extras.length = p.extras := by
    simp [body, List.append_assoc]
  have hkey : (p.body.drop (p.framing.length + p.extras.length)).take p.key.length = p.key := by
    simp [body, List.append_assoc, ← List.drop_drop]
  have hvalue : p.body.drop (p.framing.length + p.extras.length + p.key.length) = p.value := by
    simp [body, List.append_assoc, ← List.drop_drop]
  simp only [carried, Header.toPacket, Header.partsLength, hf, he, hk, hmagic, hvbucket, hstatus, hframing, hextras,
    hkey, hvalue]
  rfl

theorem Canonical.of_carried_eq {p : Packet} (hp : p.carried = p) : p.Canonical := by
  have hle : p.header.stored.partsLength ≤ p.body.length := by
    rw [p.length_body]
    exact p.partsLength_stored_header_le
  obtain ⟨hf, he, hk⟩ := Header.lengths_toPacket hle p.command (if p.magic.isRequest then .success else p.status)
  rw [← carried, hp] at hf he hk
  have hmagic : p.header.magic = p.magic := congrArg Packet.magic hp
  have hvbucket : (if p.magic.isRequest then p.header.stored.vbucketOrStatus else 0) = p.vbucket := by
    simpa [carried, Header.toPacket, Header.stored, header] using congrArg Packet.vbucket hp
  have hstatus : (if p.magic.isRequest then .success else p.status) = p.status := congrArg Packet.status hp
  have hextras : p.extras.length = p.extras.length % 256 := he
  refine ⟨?_, by omega, ?_, fun hx => ?_, ?_, fun hr => ?_, fun hr => ?_⟩
  · by_cases hx : p.framing = []
    · simp [hx]
    · simp [Header.stored, header, hx] at hf
      omega
  · by_cases hx : p.framing = []
    · simp [Header.stored, header, hx] at hk
      omega
    · simp [Header.stored, header, hx] at hk
      omega
  · simp [Header.stored, header, hx] at hk
    omega
  · rw [← hmagic, p.isExtended_header]
  · simpa [hr] using hstatus.symm
  · simpa [hr] using hvbucket.symm

/-- **What a frame carries unchanged.** -/
theorem carried_eq_iff {p : Packet} : p.carried = p ↔ p.Canonical :=
  ⟨Canonical.of_carried_eq, Canonical.carried_eq⟩

theorem carriedAs_carried (p : Packet) : p.CarriedAs p.carried where
  isRequest := Magic.isRequest_make ..
  command := rfl
  datatype := rfl
  opaqueId := rfl
  cas := rfl
  vbucket hr := by simp [carried, Header.toPacket, Header.stored, header, hr]
  status hr := by simp [carried, Header.toPacket, hr]
  parts := Header.body_toPacket ..

theorem decode_encode_append {p : Packet} (h : p.bodyLength ≤ FrameFault.maxBody) (tail : Bytes) :
    decode (p.encode ++ tail) = .frame (.packet p.carried) (Header.size + p.bodyLength) := by
  have hmax : FrameFault.maxBody = 20971520 := rfl
  have hbody : p.header.stored.bodyLength = p.bodyLength :=
    Nat.mod_eq_of_lt (show p.bodyLength < 4294967296 by omega)
  have hparts : p.header.stored.partsLength ≤ p.header.stored.bodyLength := by
    rw [hbody]
    exact p.partsLength_stored_header_le
  rw [encode, decode_write_append (by omega) (by rw [p.length_body, hbody]) tail,
    Header.decodeBody_of_le hparts (Command.ofCode?_code p.command) p.status?_stored_header, hbody]
  rfl

/-- **A frame reads back whole.** Writing a packet of at most 20 MiB only adds bytes to a buffer. Whatever follows them,
they read back as one packet of their own length, with the same header fields and the same body; it is the same packet
exactly if that is canonical. -/
theorem decode_encodeOnto (p : Packet) (h : p.bodyLength ≤ FrameFault.maxBody) (buffer tail : Bytes) :
    ∃ frame q, p.encodeOnto buffer = buffer ++ frame ∧
      decode (frame ++ tail) = .frame (.packet q) (24 + p.bodyLength) ∧
      p.CarriedAs q ∧ (q = p ↔ p.Canonical) :=
  ⟨p.encode, p.carried, rfl, decode_encode_append h tail, p.carriedAs_carried, carried_eq_iff⟩

/-- Extras and a key that are both too long for their length fields. -/
theorem decode_encodeOnto_long_parts :
    let p : Packet := { Packet.request .set with
      magic := .reqExt, framing := [2, 0, 16], extras := .replicate 260 1, key := .replicate 300 107, value := [123, 125] }
    p.bodyLength ≤ FrameFault.maxBody ∧
      ∃ frame q, p.encodeOnto [0xff] = [0xff] ++ frame ∧
        decode (frame ++ [0x80]) = .frame (.packet q) (24 + p.bodyLength) ∧
        p.CarriedAs q ∧ (q = p ↔ p.Canonical) := by
  intro p
  have h : p.bodyLength ≤ FrameFault.maxBody := by
    simp only [p, bodyLength, List.length_replicate, List.length_cons, List.length_nil]
    decide
  exact ⟨h, decode_encodeOnto p h [0xff] [0x80]⟩

end Packet

/-! ### From bytes to a packet and back -/

namespace Header

/-- The header of a packet that was cut out of a body has the same content. Only the layout is chosen anew. -/
theorem header_toPacket {h : Header} {body : Bytes} (hb : body.length = h.bodyLength)
    (hparts : h.partsLength ≤ h.bodyLength) {command : Command} (hc : Command.ofCode? h.opcode = some command)
    {status : Status} (hs : h.status? = some status) :
    (h.toPacket command status body).header = h.relaid := by
  obtain ⟨hf, he, hk⟩ := lengths_toPacket (hb ▸ hparts) command status
  have hframing : (!(h.toPacket command status body).framing.isEmpty) = decide (h.framingLength ≠ 0) := by
    rw [← hf, Bool.eq_iff_iff]
    simp [List.length_eq_zero_iff]
  have hbody : (h.toPacket command status body).bodyLength = h.bodyLength := by
    rw [← Packet.length_body, body_toPacket, hb]
  have hvbucket : (if (h.toPacket command status body).magic.isRequest then (h.toPacket command status body).vbucket
      else (h.toPacket command status body).status.code) = h.vbucketOrStatus := by
    cases hr : h.magic.isRequest with
    | true => simp [toPacket, hr]
    | false =>
      have hcode : Status.ofCode? h.vbucketOrStatus = some status := by simpa [status?, hr] using hs
      simpa [toPacket, hr] using Status.code_of_ofCode? hcode
  rw [Packet.header, hvbucket, hf, he, hk, hframing, hbody]
  simp only [relaid, toPacket, Command.code_of_ofCode? hc]

theorem encode_toPacket {h : Header} {body : Bytes} (hb : body.length = h.bodyLength)
    (hparts : h.partsLength ≤ h.bodyLength) {command : Command} (hc : Command.ofCode? h.opcode = some command)
    {status : Status} (hs : h.status? = some status) :
    (h.toPacket command status body).encode = h.relaid.write ++ body := by
  rw [Packet.encode, header_toPacket hb hparts hc hs, body_toPacket]

theorem of_decodeBody_eq_packet {h : Header} {body : Bytes} {p : Packet} {n : Nat}
    (hd : h.decodeBody body = .frame (.packet p) n) :
    n = size + h.bodyLength ∧ h.partsLength ≤ h.bodyLength ∧ ∃ command status,
      Command.ofCode? h.opcode = some command ∧ h.status? = some status ∧ p = h.toPacket command status body := by
  unfold decodeBody at hd
  split at hd
  · cases hd
  · rename_i hparts
    split at hd
    · cases hd
    · rename_i command hc
      split at hd
      · cases hd
      · rename_i status hs
        cases hd
        exact ⟨rfl, by omega, command, status, hc, hs, rfl⟩

end Header

/-- The first byte of what was read is its magic. -/
theorem getElem?_zero_of_magic {data : Bytes} {magic : Magic} (hl : 0 < data.length)
    (hm : Magic.ofCode? ((data.take Header.size).headD 0) = some magic) : data[0]? = some magic.code := by
  cases data with
  | nil => cases hl
  | cons b rest => simpa [Header.size] using (Magic.code_of_ofCode? hm).symm

/-- The third byte of an extended header is its framing length. -/
theorem framingLength_read_eq_zero_iff {data : Bytes} (hl : 2 < data.length) {magic : Magic}
    (hx : magic.isExtended = true) :
    (Header.read magic (data.take Header.size)).framingLength = 0 ↔ data[2]? = some 0 := by
  match data, hl with
  | a :: b :: c :: rest, _ =>
    have hfield : Header.field 2 1 ((a :: b :: c :: rest).take Header.size) = c.toNat := Header.field_zero_cons c _
    simp [Header.read, hx, hfield, ← UInt8.toNat_inj]

/-- **A frame that was read is written with the same bytes.** Only the magic of an extended header without framing extras
is replaced by the plain magic of the same direction. -/
theorem encode_of_decode {data : Bytes} {p : Packet} {n : Nat} (hd : decode data = .frame (.packet p) n) :
    (p.encodeOnto []).length = n ∧
      p.encodeOnto [] =
        if data[2]? = some 0 ∧ data[0]? = some 0x08 then (data.take n).set 0 0x80
        else if data[2]? = some 0 ∧ data[0]? = some 0x18 then (data.take n).set 0 0x81
        else data.take n := by
  obtain ⟨magic, hm, -, hle, hbody⟩ := exists_magic_of_decode hd
  obtain ⟨rfl, hparts, command, status, hc, hst, rfl⟩ := Header.of_decodeBody_eq_packet hbody
  have hs : Header.size = 24 := rfl
  have hhead : (data.take Header.size).length = Header.size := by
    rw [List.length_take]
    omega
  have hfirst := getElem?_zero_of_magic (by omega) hm
  have hthird (hx : magic.isExtended = true) := framingLength_read_eq_zero_iff (show 2 < data.length by omega) hx
  have hlayout := Header.write_relaid_read magic (data.take Header.size)
  rw [Header.write_read hm hhead] at hlayout
  generalize Header.read magic (data.take Header.size) = h at *
  have hrest : ((data.drop Header.size).take h.bodyLength).length = h.bodyLength := by
    rw [List.length_take, List.length_drop]
    omega
  have hencode : (h.toPacket command status ((data.drop Header.size).take h.bodyLength)).encode =
      if magic.isExtended = true ∧ h.framingLength = 0 then
        (data.take (Header.size + h.bodyLength)).set 0 (Magic.make magic.isRequest false).code
      else data.take (Header.size + h.bodyLength) := by
    rw [Header.encode_toPacket hrest hparts hc hst, hlayout, List.take_add]
    split
    · rw [List.set_append_left _ _ (by omega)]
    · rfl
  rw [Packet.encodeOnto, List.nil_append, hencode, hfirst]
  constructor
  · split <;> simp [hle]
  · cases magic with
    | req | res => simp [Magic.isExtended, Magic.code]
    | reqExt | resExt => simp [Magic.isExtended, Magic.isRequest, Magic.make, Magic.code, hthird rfl]

/-- An extended header without framing extras, in front of a key and one further byte. -/
theorem encode_of_decode_bare_extended :
    let data : Bytes := [0x08, 0x00, 0x00, 0x03, 0x00, 0x00, 0x00, 0x04, 0x00, 0x00, 0x00, 0x03, 0x00, 0x00, 0x00, 0x09,
      0x00, 0x00, 0x00, 0x00, 0x00, 0x00, 0x00, 0x00, 0x64, 0x6f, 0x63, 0xff]
    let p : Packet := { Packet.request .get with
      magic := .reqExt, vbucket := 4, opaqueId := 9, key := [0x64, 0x6f, 0x63] }
    decode data = .frame (.packet p) 27 ∧ (p.encodeOnto []).length = 27 ∧
      p.encodeOnto [] =
        if data[2]? = some 0 ∧ data[0]? = some 0x08 then (data.take 27).set 0 0x80
        else if data[2]? = some 0 ∧ data[0]? = some 0x18 then (data.take 27).set 0 0x81
        else data.take 27 := by
  intro data p
  have h : decode data = .frame (.packet p) 27 := by decide
  exact ⟨h, encode_of_decode h⟩

end MockCluster
