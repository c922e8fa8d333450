import MockCluster.Proofs.Connection.Replies
import MockCluster.Proofs.Frame.RoundTrip
import MockCluster.Proofs.Services.Served

/-!
# Conversations

A client sends requests one behind the other and reads what comes back. With the built-in services alone there is one
response for each request, in the same order, and the client can tell by the opcode and the correlation number which one
it is; nothing the client sends makes the server end the connection, as long as it keeps to the form of a request
(`IsRequest`).

| request | response |
| --- | --- |
| plain, for a service | what the service answers |
| plain, for any other operation | unknown command |
| in the extended layout, for any operation | unknown command |
| with an opcode that has no name | unknown command |

The one thing that could go wrong is a response that is too long to be read again. Only configurations can become that
long, so that they must be short enough (`conversation`).
-/

namespace MockCluster

section Form

/-- Bytes that make one request: a header with the magic of a request, and a body of the announced length, which is
accepted and in which the parts have room. -/
structure IsRequest (bytes : Bytes) : Prop where
  magic : bytes[0]? = some 0x80 ∨ bytes[0]? = some 0x08
  whole : bytes.length = 24 + Header.field 8 4 bytes
  short : Header.field 8 4 bytes ≤ FrameFault.maxBody
  /-- Extras and key of the plain layout. -/
  plain : bytes[0]? = some 0x80 → Header.field 4 1 bytes + Header.field 2 2 bytes ≤ Header.field 8 4 bytes
  /-- Framing extras, extras and key of the extended layout. -/
  extended : bytes[0]? = some 0x08 →
    Header.field 2 1 bytes + Header.field 4 1 bytes + Header.field 3 1 bytes ≤ Header.field 8 4 bytes

instance (bytes : Bytes) : Decidable (IsRequest bytes) :=
  decidable_of_iff
    ((bytes[0]? = some 0x80 ∨ bytes[0]? = some 0x08) ∧
      bytes.length = 24 + Header.field 8 4 bytes ∧
      Header.field 8 4 bytes ≤ FrameFault.maxBody ∧
      (bytes[0]? = some 0x80 → Header.field 4 1 bytes + Header.field 2 2 bytes ≤ Header.field 8 4 bytes) ∧
      (bytes[0]? = some 0x08 →
        Header.field 2 1 bytes + Header.field 4 1 bytes + Header.field 3 1 bytes ≤ Header.field 8 4 bytes))
    ⟨fun ⟨magic, whole, short, plain, extended⟩ => ⟨magic, whole, short, plain, extended⟩,
      fun h => ⟨h.magic, h.whole, h.short, h.plain, h.extended⟩⟩

/-- The number of the operation. -/
def Frame.opcode : Frame → UInt8
  | packet p => p.command.code
  | unsupported _ opcode _ => opcode

/-- The number by which a client matches responses to requests. -/
def Frame.opaqueId : Frame → UInt32
  | packet p => p.opaqueId
  | unsupported _ _ opaqueId => opaqueId

/-- A response that a client will match to a request. -/
structure Frame.RespondsTo (request : Bytes) (frame : Frame) : Prop where
  response : frame.isRequest = false
  opcode : frame.opcode.toNat = Header.field 1 1 request
  opaqueId : frame.opaqueId.toNat = Header.field 12 4 request

theorem Header.field_take {offset width n : Nat} (h : offset + width ≤ n) (bytes : Bytes) :
    field offset width (bytes.take n) = field offset width bytes := by
  rw [field, List.drop_take, List.take_take, Nat.min_eq_left (by omega), field]

theorem Header.decodeBody_of_unnamed {h : Header} (hparts : h.partsLength ≤ h.bodyLength)
    (hc : Command.ofCode? h.opcode = none) (body : Bytes) :
    h.decodeBody body = .frame (.unsupported h.magic h.opcode h.opaqueId) (size + h.bodyLength) := by
  rw [decodeBody, if_neg (by omega)]
  simp only [hc]

namespace IsRequest

variable {bytes : Bytes}

theorem exists_magic (h : IsRequest bytes) :
    ∃ magic, Magic.ofCode? ((bytes.take Header.size).headD 0) = some magic ∧ magic.isRequest = true ∧
      (Header.read magic (bytes.take Header.size)).partsLength ≤ Header.field 8 4 bytes := by
  have head (b : UInt8) (hb : bytes[0]? = some b) : (bytes.take Header.size).headD 0 = b := by
    cases bytes with
    | nil => cases hb
    | cons first rest => exact Option.some.inj hb
  have hs : Header.size = 24 := rfl
  obtain hm | hm := h.magic
  · refine ⟨.req, by rw [head _ hm]; rfl, rfl, ?_⟩
    have room := h.plain hm
    simp (disch := omega) only [Header.partsLength, Header.read, Magic.isExtended, Bool.false_eq_true, if_false,
      Header.field_take]
    omega
  · refine ⟨.reqExt, by rw [head _ hm]; rfl, rfl, ?_⟩
    have room := h.extended hm
    simp (disch := omega) only [Header.partsLength, Header.read, Magic.isExtended, if_true, Header.field_take]
    omega

/-- A request is read whole. -/
theorem exists_decode (h : IsRequest bytes) :
    ∃ frame, decode bytes = .frame frame bytes.length ∧ frame.isRequest = true ∧
      frame.opcode.toNat = Header.field 1 1 bytes ∧ frame.opaqueId.toNat = Header.field 12 4 bytes := by
  obtain ⟨magic, hm, request, room⟩ := h.exists_magic
  have hs : Header.size = 24 := rfl
  have whole := h.whole
  have length : (Header.read magic (bytes.take Header.size)).bodyLength = Header.field 8 4 bytes :=
    Header.field_take (by omega) bytes
  have opcode : (Header.read magic (bytes.take Header.size)).opcode.toNat = Header.field 1 1 bytes := by
    rw [← Header.field_take (show 1 + 1 ≤ Header.size by omega) bytes]
    exact UInt8.toNat_ofNat_of_lt' (Header.field_lt 1 1 _)
  have opaqueId : (Header.read magic (bytes.take Header.size)).opaqueId.toNat = Header.field 12 4 bytes := by
    rw [← Header.field_take (show 12 + 4 ≤ Header.size by omega) bytes]
    exact UInt32.toNat_ofNat_of_lt' (Header.field_lt 12 4 _)
  have status : (Header.read magic (bytes.take Header.size)).status? = some .success := if_pos request
  have magic_read : (Header.read magic (bytes.take Header.size)).magic = magic := rfl
  rw [decode_eq_decodeBody hm (length ▸ h.short) (by omega)]
  generalize Header.read magic (bytes.take Header.size) = header at *
  have size : Header.size + header.bodyLength = bytes.length := by omega
  rw [← length] at room
  generalize (bytes.drop Header.size).take header.bodyLength = body
  cases named : Command.ofCode? header.opcode with
  | none =>
    refine ⟨.unsupported magic header.opcode header.opaqueId, ?_, request, opcode, opaqueId⟩
    rw [Header.decodeBody_of_unnamed room named, size, magic_read]
  | some command =>
    refine ⟨.packet (header.toPacket command .success body), ?_, ?_, ?_, opaqueId⟩
    · rw [Header.decodeBody_of_le room named status, size]
    · exact (congrArg Magic.isRequest magic_read).trans request
    · rw [← opcode, ← Command.code_of_ofCode? named]
      rfl

end IsRequest

end Form

section Responses

/-- Bytes that read back as a response of the given opcode and correlation number, whatever follows them. -/
def IsResponse (opcode : UInt8) (opaqueId : UInt32) (bytes : Bytes) : Prop :=
  ∃ frame, (∀ tail, decode (bytes ++ tail) = .frame frame bytes.length) ∧ frame.isRequest = false ∧
    frame.opcode = opcode ∧ frame.opaqueId = opaqueId

theorem isResponse_encode {response : Packet} (hm : response.magic.isRequest = false)
    (short : response.bodyLength ≤ FrameFault.maxBody) :
    IsResponse response.command.code response.opaqueId response.encode := by
  have length : response.encode.length = Header.size + response.bodyLength := by
    rw [Packet.encode, List.length_append, Header.length_write, Packet.length_body]
  have carried := response.carriedAs_carried
  refine ⟨.packet response.carried, fun tail => ?_, carried.isRequest.trans hm, ?_, carried.opaqueId⟩
  · rw [length]
    exact Packet.decode_encode_append short tail
  · exact congrArg Command.code carried.command

/-- What a service answers to a packet has no parts besides the value. -/
theorem isResponse_responseTo (p : Packet) (datatype : UInt8) (status : Status) {value : Bytes}
    (short : value.length ≤ FrameFault.maxBody) :
    IsResponse p.command.code p.opaqueId ({ p.responseTo with datatype, status, value } : Packet).encode := by
  have length : ({ p.responseTo with datatype, status, value } : Packet).bodyLength = value.length := by
    simp [Packet.bodyLength, Packet.responseTo, Packet.request]
  exact @isResponse_encode { p.responseTo with datatype, status, value } rfl (length ▸ short)

/-- The answer to an opcode that has no name is a response of this opcode. -/
theorem isResponse_encodeStatus (opcode : UInt8) (opaqueId : UInt32) :
    IsResponse opcode opaqueId (encodeStatus opcode opaqueId .unknownCommand) := by
  let header : Header :=
    { magic := .res, opcode, framingLength := 0, keyLength := 0, extrasLength := 0, datatype := 0
      vbucketOrStatus := Status.unknownCommand.code, bodyLength := 0, opaqueId, cas := 0 }
  have length : header.write.length = Header.size := header.length_write
  have read (tail : Bytes) : decode (header.write ++ tail) = header.decodeBody [] := by
    have bare := @decode_write_append header (Nat.zero_le _) [] rfl tail
    rwa [List.append_nil] at bare
  have room : header.partsLength ≤ header.bodyLength := Nat.le_refl 0
  cases named : Command.ofCode? opcode with
  | none =>
    refine ⟨.unsupported .res opcode opaqueId, fun tail => ?_, rfl, rfl, rfl⟩
    rw [encodeStatus, length, read]
    exact Header.decodeBody_of_unnamed room named []
  | some command =>
    refine ⟨.packet (header.toPacket command .unknownCommand []), fun tail => ?_, rfl,
      Command.code_of_ofCode? named, rfl⟩
    rw [encodeStatus, length, read]
    exact Header.decodeBody_of_le room named rfl []

end Responses

theorem nodup_eraseDups {α : Type} [DecidableEq α] : ∀ list : List α, list.eraseDups.Nodup
  | [] => by simp
  | a :: rest => by
    rw [List.eraseDups_cons, List.nodup_cons, List.mem_eraseDups, List.mem_filter]
    exact ⟨by simp, nodup_eraseDups _⟩
termination_by list => list.length
decreasing_by exact Nat.lt_succ_of_le (List.length_filter_le ..)

theorem eraseDups_eq_self {α : Type} [DecidableEq α] {list : List α} (nodup : list.Nodup) : list.eraseDups = list := by
  induction list with
  | nil => rfl
  | cons a rest ih =>
    obtain ⟨new, nodup⟩ := List.nodup_cons.1 nodup
    rw [List.eraseDups_cons, List.filter_eq_self.2 fun b hb => ?_, ih nodup]
    simpa using ne_of_mem_of_not_mem hb new

namespace Kv

open MockCluster.Script (Memory)

namespace Builtin

variable {H : Type}

theorem length_featureValue (features : List Feature) : (featureValue features).length = 2 * features.length := by
  induction features with
  | nil => rfl
  | cons f rest ih =>
    change (Bytes.bigEndian 2 f.code.toNat ++ featureValue rest).length = _
    rw [List.length_append, Bytes.length_bigEndian, ih, List.length_cons]
    omega

/-- No more features are agreed on than there are supported ones, however many were asked for. -/
theorem length_featureValue_agreedFeatures_le (value : Bytes) :
    (featureValue (agreedFeatures value)).length ≤ 2 * supportedFeatures.length := by
  have supported : agreedFeatures value ⊆ supportedFeatures := fun f hf =>
    of_decide_eq_true (List.mem_filter.1 (List.mem_eraseDups.1 hf)).2
  have few : (agreedFeatures value).length ≤ supportedFeatures.length :=
    (nodup_eraseDups _).length_le_of_subset supported
  rw [length_featureValue]
  exact Nat.mul_le_mul_left 2 few

/-- A reply is a response with a value that is not too long, if configurations are not. -/
theorem exists_reply_eq (b : Builtin) {client : Client H} {t : Topology}
    (short : ∀ config, configFor client t = .ok config → config.length ≤ FrameFault.maxBody) (p : Packet) :
    ∃ datatype status value, b.reply client t p = { p.responseTo with datatype, status, value } ∧
      value.length ≤ FrameFault.maxBody := by
  cases b with
  | hello =>
    by_cases odd : p.value.length % 2 ≠ 0
    · exact ⟨_, _, _, if_pos odd, Nat.zero_le _⟩
    · exact ⟨_, _, _, if_neg odd, Nat.le_trans (length_featureValue_agreedFeatures_le p.value) (by decide)⟩
  | noop => exact ⟨_, _, _, rfl, Nat.zero_le _⟩
  | saslListMechs => exact ⟨_, _, _, rfl, by decide +kernel⟩
  | saslAuth credentials =>
    by_cases right : p.key = Utf8.encode "PLAIN" ∧ authenticates credentials p.value
    · exact ⟨_, _, _, if_pos right, by decide +kernel⟩
    · exact ⟨_, _, _, if_neg right, Nat.zero_le _⟩
  | selectBucket =>
    cases hb : t.bucket? (Utf8.decodeLossy p.key) with
    | none => exact ⟨_, _, _, by simp only [reply, hb]; rfl, Nat.zero_le _⟩
    | some b => exact ⟨_, _, _, by simp only [reply, hb]; rfl, Nat.zero_le _⟩
  | getClusterConfig =>
    cases hc : configFor client t with
    | ok config => exact ⟨_, _, _, by simp only [reply, configResponse, hc]; rfl, short config hc⟩
    | error fault => exact ⟨_, _, _, by simp only [reply, configResponse, hc]; rfl, Nat.zero_le _⟩

theorem isResponse_reply (b : Builtin) {client : Client H} {t : Topology}
    (short : ∀ config, configFor client t = .ok config → config.length ≤ FrameFault.maxBody) (p : Packet) :
    IsResponse p.command.code p.opaqueId (b.reply client t p).encode := by
  obtain ⟨datatype, status, value, reply, short⟩ := b.exists_reply_eq short p
  rw [reply]
  exact isResponse_responseTo p datatype status short

end Builtin

/-- The configurations that a node may answer with are short enough to be sent. -/
def ConfigsFit (t : Topology) (node : NodeId) : Prop :=
  ∀ config, (t.clusterConfig node = .ok config ∨ ∃ name, t.bucketConfig name node = .ok config) →
    config.length ≤ FrameFault.maxBody

namespace Session

variable {credentials : Credentials} {t : Topology} {node : NodeId} {s : Session Handler Memory}

/-- A connection at a node that has nothing but the built-in services to offer. -/
structure Serves (credentials : Credentials) (t : Topology) (node : NodeId) (s : Session Handler Memory) : Prop where
  offers : s.shared.OffersBuiltins credentials
  own : s.connection.client.own.entries = []
  topology : s.shared.topology = t
  node : s.connection.client.node = node

/-- **One request, one response.** A request is answered with a response of its opcode and its number, and the
connection serves as before. -/
theorem Serves.answer (serves : s.Serves credentials t node) (fit : ConfigsFit t node) {frame : Frame}
    (request : frame.isRequest = true) :
    ∃ sent next, s.answer Handler.behaviour frame = (some sent, next) ∧ next.Serves credentials t node ∧
      IsResponse frame.opcode frame.opaqueId sent := by
  cases frame with
  | unsupported magic opcode opaqueId =>
    have hr : magic.isRequest = true := request
    refine ⟨_, { s with metrics := s.metrics.countUnhandled }, ?_, ⟨serves.offers, serves.own, serves.topology,
      serves.node⟩, isResponse_encodeStatus opcode opaqueId⟩
    simp only [Session.answer, hr, if_true]
  | packet p =>
    have hr : p.magic.isRequest = true := request
    have known : ∀ config, Builtin.configFor s.connection.client s.shared.topology = .ok config →
        config.length ≤ FrameFault.maxBody := by
      intro config hc
      rw [serves.topology, Builtin.configFor, serves.node] at hc
      split at hc
      · exact fit config (.inr ⟨_, hc⟩)
      · exact fit config (.inl hc)
    obtain ⟨defaults, same, dispatched⟩ := dispatch_builtins serves.offers serves.own p
    have serves' (metrics : Metrics) : Serves credentials t node
        ⟨⟨s.connection.client.afterRequest credentials s.shared.topology p, s.connection.waiting⟩,
          { s.shared with defaults }, metrics⟩ :=
      ⟨serves.offers.of_entries same, (congrArg Scope.entries (Client.own_afterRequest _ p)).trans serves.own,
        serves.topology, (Client.node_afterRequest _ p).trans serves.node⟩
    simp only [Session.answer, hr, if_true, answerRequest, dispatched, Outcome.world, conclude, Bool.false_eq_true,
      if_false]
    unfold Client.replyTo?
    cases Builtin.service? credentials p with
    | none => exact ⟨_, _, rfl, serves' _, isResponse_responseTo p 0 .unknownCommand (Nat.zero_le _)⟩
    | some b => exact ⟨_, _, rfl, serves' _, b.isResponse_reply known p⟩

/-- A list of requests is answered with a list of responses, after which nothing waits. -/
theorem Serves.drain (serves : s.Serves credentials t node) (fit : ConfigsFit t node) {requests : List Bytes}
    (form : ∀ request ∈ requests, IsRequest request) :
    (s.drain Handler.behaviour requests.flatten).2.connection.waiting = some [] ∧
    ∃ frames, decodeAll (s.drain Handler.behaviour requests.flatten).1 = ⟨frames, .incomplete, []⟩ ∧
      List.Forall₂ (fun request frame => frame.1.RespondsTo request) requests frames := by
  -- The connection goes on serving after each request, so what is left of the requests finds it as the first one did.
  induction requests generalizing s with
  | nil =>
    rw [List.flatten_nil, drain_incomplete rfl]
    exact ⟨rfl, [], decodeAll_nil, .nil⟩
  | cons request rest ih =>
    rw [List.forall_mem_cons] at form
    obtain ⟨frame, read, isRequest, opcode, opaqueId⟩ := form.1.exists_decode
    obtain ⟨sent, next, answered, serves', response, hd, isResponse, opcode', opaqueId'⟩ :=
      serves.answer fit isRequest
    obtain ⟨waiting, frames, decoded, responds⟩ := ih serves' form.2
    have front : decode (request ++ rest.flatten) = .frame frame request.length := by
      rw [decode_append (by simp [read]), read]
    rw [List.flatten_cons, drain_step front answered, List.drop_left]
    refine ⟨waiting, (response, sent.length) :: frames, ?_, .cons ⟨isResponse, ?_, ?_⟩ responds⟩
    · rw [decodeAll_frame (hd _), List.drop_left, decoded]
    · rw [opcode', opcode]
    · rw [opaqueId', opaqueId]

end Session

/-- **A conversation.** Let the built-in services be all that is registered, and let the configurations be short enough.
However the bytes of any requests arrive, the connection stays open with nothing left to read, and what it sends are as
many responses, in the order of the requests, each with the opcode and the number of its request. -/
theorem conversation {credentials : Credentials} {client : Client Handler} {shared : Shared Handler Memory}
    (offers : shared.OffersBuiltins credentials) (own : client.own.entries = [])
    (fit : ConfigsFit shared.topology client.node) (metrics : Metrics) {requests chunks : List Bytes}
    (form : ∀ request ∈ requests, IsRequest request) (arrive : chunks.flatten = requests.flatten) :
    let result := (Session.fresh client shared metrics).receiveAll Handler.behaviour chunks
    result.2.connection.waiting = some [] ∧
    ∃ frames, decodeAll result.1 = ⟨frames, .incomplete, []⟩ ∧
      List.Forall₂ (fun request frame => frame.1.RespondsTo request) requests frames := by
  intro result
  have serves : (Session.fresh client shared metrics).Serves credentials shared.topology client.node :=
    ⟨offers, own, rfl, rfl⟩
  have drained := serves.drain fit form
  rw [← arrive, ← Session.receiveAll_fresh] at drained
  exact drained

/-- A request that a service answers, one with an opcode that has no name, and one in the extended layout, cut in the
middle of a header. -/
theorem conversation_three :
    let t := Topology.mutateAll [.addNode "a" [.kv]] .initial
    let shared : Shared Handler Memory := ⟨.empty, Builtin.registerAll .standard .builtin .empty, t, .empty⟩
    let request (magic opcode number : UInt8) : Bytes :=
      [magic, opcode, 0, 0, 0, 0, 0, 0, 0, 0, 0, 0, 0, 0, 0, number, 0, 0, 0, 0, 0, 0, 0, 0]
    let requests := [request 0x80 0x0a 1, request 0x80 0x3f 2, request 0x08 0x0a 3]
    let chunks := [requests.flatten.take 30, requests.flatten.drop 30]
    let result := (Session.fresh (.create 1 0) shared .zero).receiveAll Handler.behaviour chunks
    ConfigsFit t 0 ∧ (∀ request ∈ requests, IsRequest request) ∧ chunks.flatten = requests.flatten ∧
      result.2.connection.waiting = some [] ∧
      ∃ frames, decodeAll result.1 = ⟨frames, .incomplete, []⟩ ∧
        List.Forall₂ (fun request frame => frame.1.RespondsTo request) requests frames := by
  intro t shared request requests chunks result
  have fit : ConfigsFit t 0 := by
    have cluster : ((t.clusterConfig 0).toOption.all fun config => config.length ≤ FrameFault.maxBody) = true := by
      decide +kernel
    rintro config (hc | ⟨name, hc⟩)
    · rw [hc] at cluster
      exact of_decide_eq_true cluster
    · cases hc
  have form : ∀ request ∈ requests, IsRequest request := by decide
  have arrive : chunks.flatten = requests.flatten := by decide
  exact ⟨fit, form, arrive,
    conversation (offersBuiltins_registerAll .standard t .empty) rfl fit .zero form arrive⟩

end Kv

end MockCluster
