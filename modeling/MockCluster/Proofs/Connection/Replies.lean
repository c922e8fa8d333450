import MockCluster.Proofs.Connection.Chunks

/-!
# One reply for each request

The frames of a stream do not depend on what is answered to them: they are `decodeAll` of the stream. `Run` says how a
connection goes through them, without looking at bytes or buffers. Each request is answered with one frame, in the order
of the stream, until the frames are used up or one of them ends the connection. `Session.receiveAll_replies` says that a
connection sends the replies of such a run, however the stream arrives.

| frame | reply |
| --- | --- |
| a request for which a response was left | the response |
| a request for which none was left | "unknown command", with the opcode and the number of the request |
| a request with an opcode that has no name | the same |
| a request whose handlers asked to drop the connection | none, the connection ends |
| a response | none, the connection ends |
-/

namespace MockCluster

/-- Whether a frame is a request. -/
def Frame.isRequest : Frame → Bool
  | packet p => p.magic.isRequest
  | unsupported magic _ _ => magic.isRequest

/-- The response "unknown command": a header without a body. -/
def unknownCommandFrame (opcode : UInt8) (opaqueId : UInt32) : Bytes :=
  [0x81, opcode, 0, 0, 0, 0, 0x00, 0x81, 0, 0, 0, 0] ++ Bytes.bigEndian 4 opaqueId.toNat ++ [0, 0, 0, 0, 0, 0, 0, 0]

theorem encodeStatus_unknownCommand (opcode : UInt8) (opaqueId : UInt32) :
    encodeStatus opcode opaqueId .unknownCommand = unknownCommandFrame opcode opaqueId := by
  simp [encodeStatus, Header.write, unknownCommandFrame, Magic.code, Magic.isExtended, Status.code, Bytes.bigEndian]

theorem Packet.encode_unknownCommand (p : Packet) :
    ({ p.responseTo with status := .unknownCommand } : Packet).encode =
      unknownCommandFrame p.command.code p.opaqueId := by
  rw [← encodeStatus_unknownCommand]
  exact List.append_nil _

namespace Kv

/-- What the handlers of a connection find when a request comes in, and what they leave behind. -/
structure Scene (H M : Type) where
  client : Client H
  shared : Shared H M

variable {H M : Type}

def Exchange.scene (ex : Exchange H M) : Scene H M := ⟨ex.client, ex.shared⟩

def Session.scene (s : Session H M) : Scene H M := ⟨s.connection.client, s.shared⟩

/-- The state in which the handlers of a request leave off, whether they return, fail or break off. -/
def Scene.dispatched (behaviour : Behaviour H M) (c : Scene H M) (p : Packet) : Exchange H M :=
  (dispatch behaviour (.start c.client c.shared) p).world

/-- A request is answered: the frame that is sent for it, and what its handlers leave behind. -/
inductive Answers (behaviour : Behaviour H M) : Scene H M → Frame → Bytes → Scene H M → Prop
  /-- A response was left, even if a handler failed or broke off after writing it. -/
  | response {c : Scene H M} {p response : Packet} (request : p.magic.isRequest = true)
      (stays : (c.dispatched behaviour p).disconnect = false)
      (left : (c.dispatched behaviour p).response = some response) :
      Answers behaviour c (.packet p) response.encode (c.dispatched behaviour p).scene
  /-- No response was left. -/
  | silence {c : Scene H M} {p : Packet} (request : p.magic.isRequest = true)
      (stays : (c.dispatched behaviour p).disconnect = false)
      (left : (c.dispatched behaviour p).response = none) :
      Answers behaviour c (.packet p) (unknownCommandFrame p.command.code p.opaqueId)
        (c.dispatched behaviour p).scene
  /-- The opcode has no name: nothing is dispatched. -/
  | unnamed {c : Scene H M} {magic : Magic} {opcode : UInt8} {opaqueId : UInt32}
      (request : magic.isRequest = true) :
      Answers behaviour c (.unsupported magic opcode opaqueId) (unknownCommandFrame opcode opaqueId) c

/-- A frame ends the connection: what is left behind. -/
inductive Ends (behaviour : Behaviour H M) : Scene H M → Frame → Scene H M → Prop
  /-- The frame is a response; nothing is dispatched. -/
  | response {c : Scene H M} {frame : Frame} (response : frame.isRequest = false) : Ends behaviour c frame c
  /-- A handler asked to drop the connection. -/
  | dropped {c : Scene H M} {p : Packet} (request : p.magic.isRequest = true)
      (drops : (c.dispatched behaviour p).disconnect = true) :
      Ends behaviour c (.packet p) (c.dispatched behaviour p).scene

/-- A connection goes through the frames of a stream, after which decoding stops for the given reason: the replies it
sends, what is left behind, and whether it stays open. -/
inductive Run (behaviour : Behaviour H M) :
    Scene H M → List Frame → Stop → List Bytes → Scene H M → Bool → Prop
  /-- No complete frame is left: the connection waits for more. -/
  | waits {c : Scene H M} : Run behaviour c [] .incomplete [] c true
  /-- What follows is malformed: the connection ends. -/
  | malformed {c : Scene H M} {fault : FrameFault} : Run behaviour c [] (.invalid fault) [] c false
  /-- A frame ends the connection: the frames behind it are not looked at. -/
  | ends {c last : Scene H M} {frame : Frame} {rest : List Frame} {stop : Stop}
      (end_ : Ends behaviour c frame last) : Run behaviour c (frame :: rest) stop [] last false
  /-- A request is answered, and then the frames behind it. -/
  | answers {c next last : Scene H M} {frame : Frame} {rest : List Frame} {stop : Stop} {reply : Bytes}
      {replies : List Bytes} {stays : Bool} (answer : Answers behaviour c frame reply next)
      (run : Run behaviour next rest stop replies last stays) :
      Run behaviour c (frame :: rest) stop (reply :: replies) last stays

section Unique

variable {behaviour : Behaviour H M} {c next next' last last' : Scene H M} {frame : Frame} {frames : List Frame}
  {stop : Stop} {reply reply' : Bytes} {replies replies' : List Bytes} {stays stays' : Bool}

theorem Answers.unique (h : Answers behaviour c frame reply next) (h' : Answers behaviour c frame reply' next') :
    reply = reply' ∧ next = next' := by
  cases h with
  | response _ _ left =>
    cases h' with
    | response _ _ left' =>
      rw [left, Option.some.injEq] at left'
      exact ⟨congrArg Packet.encode left', rfl⟩
    | silence _ _ left' => rw [left] at left'; cases left'
  | silence _ _ left =>
    cases h' with
    | response _ _ left' => rw [left] at left'; cases left'
    | silence => exact ⟨rfl, rfl⟩
  | unnamed => cases h'; exact ⟨rfl, rfl⟩

theorem Ends.unique (h : Ends behaviour c frame last) (h' : Ends behaviour c frame last') : last = last' := by
  cases h with
  | response hr =>
    cases h' with
    | response => rfl
    | dropped request => exact absurd (hr.symm.trans request) (by decide)
  | dropped request =>
    cases h' with
    | response hr => exact absurd (hr.symm.trans request) (by decide)
    | dropped => rfl

theorem Ends.not_answers (h : Ends behaviour c frame last) : ¬Answers behaviour c frame reply next := by
  intro h'
  cases h with
  | response hr =>
    cases h' with
    | response request | silence request | unnamed request => exact absurd (hr.symm.trans request) (by decide)
  | dropped _ drops =>
    cases h' with
    | response _ stays | silence _ stays => exact absurd (stays.symm.trans drops) (by decide)

/-- **A run is determined by the frames.** -/
theorem Run.unique (h : Run behaviour c frames stop replies last stays)
    (h' : Run behaviour c frames stop replies' last' stays') :
    replies = replies' ∧ last = last' ∧ stays = stays' := by
  induction h generalizing replies' with
  | waits => cases h'; exact ⟨rfl, rfl, rfl⟩
  | malformed => cases h'; exact ⟨rfl, rfl, rfl⟩
  | ends hends =>
    cases h' with
    | ends hends' => exact ⟨rfl, hends.unique hends', rfl⟩
    | answers hanswers => exact absurd hanswers hends.not_answers
  | answers hanswers _ ih =>
    cases h' with
    | ends hends => exact absurd hanswers hends.not_answers
    | answers hanswers' hrun =>
      obtain ⟨rfl, rfl⟩ := hanswers.unique hanswers'
      obtain ⟨rfl, rfl, rfl⟩ := ih hrun
      exact ⟨rfl, rfl, rfl⟩

end Unique

namespace Session

variable {behaviour : Behaviour H M}

/-- An answered frame: what is sent is its reply, and one more answer is counted. -/
theorem answers_of_answer {s next : Session H M} {frame : Frame} {sent : Bytes}
    (h : s.answer behaviour frame = (some sent, next)) :
    Answers behaviour s.scene frame sent next.scene ∧
      next.metrics.handled + next.metrics.unhandled = s.metrics.handled + s.metrics.unhandled + 1 := by
  cases frame with
  | unsupported magic opcode opaqueId =>
    cases hreq : magic.isRequest with
    | false => simp [answer, hreq] at h
    | true =>
      simp only [answer, hreq, if_true, Prod.mk.injEq, Option.some.injEq] at h
      obtain ⟨rfl, rfl⟩ := h
      rw [encodeStatus_unknownCommand]
      exact ⟨.unnamed hreq, rfl⟩
  | packet p =>
    cases hreq : p.magic.isRequest with
    | false => simp [answer, hreq] at h
    | true =>
      simp only [answer, hreq, if_true] at h
      change s.conclude p (s.scene.dispatched behaviour p) = _ at h
      unfold conclude at h
      cases hd : (s.scene.dispatched behaviour p).disconnect with
      | true => simp [hd] at h
      | false =>
        cases hr : (s.scene.dispatched behaviour p).response with
        | some response =>
          simp only [hd, hr, Bool.false_eq_true, if_false, Prod.mk.injEq, Option.some.injEq] at h
          obtain ⟨rfl, rfl⟩ := h
          exact ⟨.response hreq hd hr, Nat.succ_add_eq_add_succ ..⟩
        | none =>
          simp only [hd, hr, Bool.false_eq_true, if_false, Prod.mk.injEq, Option.some.injEq] at h
          obtain ⟨rfl, rfl⟩ := h
          rw [Packet.encode_unknownCommand]
          exact ⟨.silence hreq hd hr, rfl⟩

/-- A frame that is not answered ends the connection, and nothing is counted. -/
theorem ends_of_answer {s next : Session H M} {frame : Frame} (h : s.answer behaviour frame = (none, next)) :
    Ends behaviour s.scene frame next.scene ∧ next.metrics = s.metrics := by
  cases frame with
  | unsupported magic opcode opaqueId =>
    cases hreq : magic.isRequest with
    | true => simp [answer, hreq] at h
    | false =>
      simp only [answer, hreq, Bool.false_eq_true, if_false, Prod.mk.injEq, true_and] at h
      obtain rfl := h
      exact ⟨.response hreq, rfl⟩
  | packet p =>
    cases hreq : p.magic.isRequest with
    | false =>
      simp only [answer, hreq, Bool.false_eq_true, if_false, Prod.mk.injEq, true_and] at h
      obtain rfl := h
      exact ⟨.response hreq, rfl⟩
    | true =>
      simp only [answer, hreq, if_true] at h
      change s.conclude p (s.scene.dispatched behaviour p) = _ at h
      unfold conclude at h
      cases hd : (s.scene.dispatched behaviour p).disconnect with
      | true =>
        simp only [hd, if_true, Prod.mk.injEq, true_and] at h
        obtain rfl := h
        exact ⟨.dropped hreq hd, rfl⟩
      | false => cases hr : (s.scene.dispatched behaviour p).response <;> simp [hd, hr] at h

@[simp] theorem scene_finish (s : Session H M) : s.finish.scene = s.scene := by
  unfold finish
  split <;> rfl

@[simp] theorem handled_finish (s : Session H M) : s.finish.metrics.handled = s.metrics.handled := by
  unfold finish
  split <;> rfl

@[simp] theorem unhandled_finish (s : Session H M) : s.finish.metrics.unhandled = s.metrics.unhandled := by
  unfold finish
  split <;> rfl

theorem decodeAll_nil : decodeAll [] = ⟨[], .incomplete, []⟩ := decodeAll_incomplete rfl

/-- Answering a buffer goes through its frames. The bytes of the answered frames stand in front; `left` begins with
whatever made the connection wait or end. -/
theorem run_drain (behaviour : Behaviour H M) (s : Session H M) (buffer : Bytes) :
    ∃ replies stays,
      Run behaviour s.scene ((decodeAll buffer).frames.map Prod.fst) (decodeAll buffer).stop replies
        (s.drain behaviour buffer).2.scene stays ∧
      (s.drain behaviour buffer).1 = replies.flatten ∧
      (s.drain behaviour buffer).2.connection.waiting = (if stays then some (decodeAll buffer).left else none) ∧
      (s.drain behaviour buffer).2.metrics.handled + (s.drain behaviour buffer).2.metrics.unhandled =
        s.metrics.handled + s.metrics.unhandled + replies.length ∧
      ∃ answered left, buffer = answered ++ left ∧
        decodeAll answered = ⟨(decodeAll buffer).frames.take replies.length, .incomplete, []⟩ ∧
        (stays = false → ∀ left', decode left' = decode left →
          s.drain behaviour (answered ++ left') = s.drain behaviour buffer) := by
  induction s, buffer using drain.induct behaviour with
  | case1 s buffer hd =>
    rw [drain_incomplete hd, decodeAll_incomplete hd]
    exact ⟨[], true, .waits, rfl, rfl, rfl, [], buffer, rfl, decodeAll_nil, by simp⟩
  | case2 s buffer fault hd =>
    rw [drain_invalid hd, decodeAll_invalid hd]
    refine ⟨[], false, by simpa using .malformed, rfl, by simp, by simp, [], buffer, rfl, decodeAll_nil,
      fun _ left' hl => ?_⟩
    rw [List.nil_append, drain_invalid (hl.trans hd)]
  | case3 s buffer frame size hd next ha =>
    obtain ⟨hends, hmetrics⟩ := ends_of_answer ha
    rw [drain_end hd ha, decodeAll_frame hd]
    refine ⟨[], false, by simpa using .ends hends, rfl, by simp, by simp [hmetrics], [], buffer, rfl,
      decodeAll_nil, fun _ left' hl => ?_⟩
    rw [List.nil_append, drain_end (hl.trans hd) ha]
  | case4 s buffer frame size hd sent next ha _ _ _ ih =>
    -- The frame in front is cut off by its own bytes, so that it is found again in front of any other rest.
    obtain ⟨hanswers, hcount⟩ := answers_of_answer ha
    obtain ⟨replies, stays, hrun, hsent, hwaiting, hmetrics, answered, left, hsplit, hanswered, hdecided⟩ := ih
    have hsize : (buffer.take size).length = size := by
      rw [List.length_take, Nat.min_eq_left (size_of_decode hd).2]
    rw [drain_step hd ha, decodeAll_frame hd]
    refine ⟨sent :: replies, stays, .answers hanswers hrun, ?_, hwaiting, hmetrics.trans ?_,
      buffer.take size ++ answered, left, ?_, ?_, fun hstays left' hl => ?_⟩
    · rw [List.flatten_cons, hsent]
    · rw [List.length_cons]
      omega
    · rw [List.append_assoc, ← hsplit, List.take_append_drop]
    · rw [decodeAll_frame (decode_take_append hd answered), List.drop_left' hsize, hanswered]
      rfl
    · rw [List.append_assoc, drain_step (decode_take_append hd _) ha, List.drop_left' hsize,
        hdecided hstays left' hl]

/-- **One reply for each request, in order.** A connection sends the replies of the run over the frames of its stream,
one after another. The run also gives what the handlers leave behind and whether the connection stays open, and each
reply is counted once. The answered frames stand at the front of the stream. If the connection ends, only the frame that
ends it is looked at besides: with other bytes behind that frame, everything is the same. -/
theorem receiveAll_replies (behaviour : Behaviour H M) (client : Client H) (shared : Shared H M) (metrics : Metrics)
    (chunks : List Bytes) :
    let stream := decodeAll chunks.flatten
    let result := (fresh client shared metrics).receiveAll behaviour chunks
    ∃ replies stays,
      Run behaviour ⟨client, shared⟩ (stream.frames.map Prod.fst) stream.stop replies result.2.scene stays ∧
      result.1 = replies.flatten ∧
      result.2.connection.waiting = (if stays then some stream.left else none) ∧
      result.2.metrics.handled + result.2.metrics.unhandled =
        metrics.handled + metrics.unhandled + replies.length ∧
      ∃ answered left, chunks.flatten = answered ++ left ∧
        decodeAll answered = ⟨stream.frames.take replies.length, .incomplete, []⟩ ∧
        (stays = false → ∀ chunks' left', chunks'.flatten = answered ++ left' → decode left' = decode left →
          (fresh client shared metrics).receiveAll behaviour chunks' = result) := by
  intro stream result
  obtain ⟨replies, stays, hrun, hsent, hwaiting, hmetrics, answered, left, hsplit, hanswered, hdecided⟩ :=
    run_drain behaviour (fresh client shared metrics) chunks.flatten
  rw [← receiveAll_fresh] at hrun hsent hwaiting hmetrics hdecided
  refine ⟨replies, stays, hrun, hsent, hwaiting, hmetrics, answered, left, hsplit, hanswered,
    fun hstays chunks' left' hc hl => ?_⟩
  rw [receiveAll_fresh, hc]
  exact hdecided hstays left' hl

end Session

end Kv

end MockCluster
