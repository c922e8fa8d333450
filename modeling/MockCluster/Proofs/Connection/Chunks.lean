import MockCluster.Kv.Builtin
import MockCluster.Kv.Connection
import MockCluster.Proofs.Frame.Prefix

/-!
# Bytes that arrive in pieces

Frames may straddle any number of reads, and several may arrive in one. What stands at the front of a buffer is not
changed by bytes that come later, unless it is only the beginning of a frame. So answering a buffer and then what comes
later is answering both at once (`Session.drain_append`), and a connection depends on the received stream only, not on
how it was cut (`Session.receiveAll_congr`).

The invariant that carries this through a run is `Session.Settled`: between two reads no frame is left that could be
answered.
-/

namespace MockCluster.Kv.Session

variable {H M : Type} {behaviour : Behaviour H M}

/-- No frame can be cut off the bytes that wait. -/
def Settled (s : Session H M) : Prop :=
  ∀ buffer, s.connection.waiting = some buffer → decode buffer = .incomplete

/-- A connection on which nothing was received yet. -/
def fresh (client : Client H) (shared : Shared H M) (metrics : Metrics) : Session H M :=
  ⟨.create client, shared, metrics⟩

theorem settled_fresh (client : Client H) (shared : Shared H M) (metrics : Metrics) :
    (fresh client shared metrics).Settled := by
  rintro buffer ⟨⟩
  rfl

theorem settled_of_ended {s : Session H M} (h : s.connection.waiting = none) : s.Settled := by
  intro buffer hb
  rw [h] at hb
  cases hb

theorem conclude_await (s : Session H M) (held : Bytes) (p : Packet) (ex : Exchange H M) :
    (s.await held).conclude p ex = ((s.conclude p ex).1, (s.conclude p ex).2.await held) := by
  unfold conclude
  cases ex.disconnect <;> cases ex.response <;> rfl

/-- Answering does not look at the waiting bytes. -/
theorem answer_await (behaviour : Behaviour H M) (s : Session H M) (held : Bytes) (frame : Frame) :
    (s.await held).answer behaviour frame =
      ((s.answer behaviour frame).1, (s.answer behaviour frame).2.await held) := by
  cases frame with
  | unsupported magic opcode opaqueId =>
    simp only [answer]
    cases magic.isRequest <;> rfl
  | packet p =>
    simp only [answer]
    cases p.magic.isRequest with
    | false => rfl
    | true => exact conclude_await s held p _

/-- Answering leaves the waiting bytes alone. -/
theorem waiting_answer (behaviour : Behaviour H M) (s : Session H M) (frame : Frame) :
    (s.answer behaviour frame).2.connection.waiting = s.connection.waiting := by
  unfold answer answerRequest conclude
  grind

/-- An open connection stays open while a frame is answered; it is closed afterwards, if at all. -/
theorem waiting_of_answer {s next : Session H M} {frame : Frame} {sent : Option Bytes}
    (ha : s.answer behaviour frame = (sent, next)) (hs : s.connection.waiting ≠ none) :
    next.connection.waiting ≠ none := by
  rw [← waiting_answer behaviour s frame, ha] at hs
  exact hs

theorem finish_await {s : Session H M} (h : s.connection.waiting ≠ none) (held : Bytes) :
    (s.await held).finish = s.finish := by
  obtain ⟨buffer, hb⟩ := Option.ne_none_iff_exists'.1 h
  simp [finish, await, hb]

theorem settled_drain (behaviour : Behaviour H M) (s : Session H M) (buffer : Bytes) :
    (s.drain behaviour buffer).2.Settled := by
  induction s, buffer using drain.induct behaviour with
  | case1 s buffer hd =>
    rw [drain_incomplete hd]
    rintro held ⟨⟩
    exact hd
  | case2 s buffer fault hd =>
    rw [drain_invalid hd]
    exact settled_of_ended (waiting_finish s)
  | case3 s buffer frame size hd next ha =>
    rw [drain_end hd ha]
    exact settled_of_ended (waiting_finish next)
  | case4 s buffer frame size hd sent next ha _ _ _ ih =>
    rw [drain_step hd ha]
    exact ih

/-- While a connection is open, its waiting bytes do not matter to the frames of a buffer. -/
theorem drain_await {s : Session H M} (hs : s.connection.waiting ≠ none) (held buffer : Bytes) :
    (s.await held).drain behaviour buffer = s.drain behaviour buffer := by
  induction s, buffer using drain.induct behaviour with
  | case1 s buffer hd =>
    rw [drain_incomplete hd, drain_incomplete hd]
    rfl
  | case2 s buffer fault hd => rw [drain_invalid hd, drain_invalid hd, finish_await hs]
  | case3 s buffer frame size hd next ha =>
    rw [drain_end hd ha, drain_end hd (by rw [answer_await, ha]), finish_await (waiting_of_answer ha hs)]
  | case4 s buffer frame size hd sent next ha _ _ _ ih =>
    rw [drain_step hd ha, drain_step hd (by rw [answer_await, ha]), ih (waiting_of_answer ha hs)]

/-- **Answering in two steps.** What comes later is answered as if it had been there from the beginning. -/
theorem drain_append {s : Session H M} (hs : s.connection.waiting ≠ none) (buffer data : Bytes) :
    s.drain behaviour (buffer ++ data) =
      ((s.drain behaviour buffer).1 ++ ((s.drain behaviour buffer).2.receive behaviour data).1,
        ((s.drain behaviour buffer).2.receive behaviour data).2) := by
  induction s, buffer using drain.induct behaviour with
  | case1 s buffer hd =>
    -- The buffer now waits in the session as well, but it is decoded together with `data` only once.
    rw [drain_incomplete hd]
    exact (drain_await hs buffer (buffer ++ data)).symm
  | case2 s buffer fault hd =>
    have hd' : decode (buffer ++ data) = .invalid fault := by
      rw [decode_append (by simp [hd]), hd]
    rw [drain_invalid hd, drain_invalid hd', receive_of_ended (waiting_finish s)]
    rfl
  | case3 s buffer frame size hd next ha =>
    have hd' : decode (buffer ++ data) = .frame frame size := by
      rw [decode_append (by simp [hd]), hd]
    rw [drain_end hd ha, drain_end hd' ha, receive_of_ended (waiting_finish next)]
    rfl
  | case4 s buffer frame size hd sent next ha _ _ _ ih =>
    have hd' : decode (buffer ++ data) = .frame frame size := by
      rw [decode_append (by simp [hd]), hd]
    rw [drain_step hd ha, drain_step hd' ha, List.drop_append_of_le_length (size_of_decode hd).2,
      ih (waiting_of_answer ha hs), List.append_assoc]

theorem receive_append (s : Session H M) (first second : Bytes) :
    s.receive behaviour (first ++ second) =
      ((s.receive behaviour first).1 ++ ((s.receive behaviour first).2.receive behaviour second).1,
        ((s.receive behaviour first).2.receive behaviour second).2) := by
  cases hw : s.connection.waiting with
  | none => simp [receive_of_ended hw]
  | some buffer =>
    simp only [receive.eq_1 behaviour s, hw]
    rw [← List.append_assoc, drain_append (by simp [hw])]

theorem settled_receive (behaviour : Behaviour H M) {s : Session H M} (hs : s.Settled) (data : Bytes) :
    (s.receive behaviour data).2.Settled := by
  cases hw : s.connection.waiting with
  | none =>
    rw [receive_of_ended hw]
    exact hs
  | some buffer =>
    simp only [receive, hw]
    exact settled_drain behaviour s (buffer ++ data)

/-- A settled connection has nothing to do when nothing arrives. -/
theorem Settled.receive_nil {s : Session H M} (hs : s.Settled) : s.receive behaviour [] = ([], s) := by
  cases hw : s.connection.waiting with
  | none => exact receive_of_ended hw []
  | some buffer =>
    simp only [receive, hw, List.append_nil]
    rw [drain_incomplete (hs buffer hw), await, ← hw]

/-- **Reading in pieces is reading at once.** -/
theorem Settled.receiveAll_eq {s : Session H M} (hs : s.Settled) (chunks : List Bytes) :
    s.receiveAll behaviour chunks = s.receive behaviour chunks.flatten := by
  induction chunks generalizing s with
  | nil => exact hs.receive_nil.symm
  | cons data rest ih =>
    rw [receiveAll, List.flatten_cons, receive_append]
    simp only [ih (settled_receive behaviour hs data)]

/-- A connection on which nothing was received yet answers the stream, however it arrives. -/
theorem receiveAll_fresh (behaviour : Behaviour H M) (client : Client H) (shared : Shared H M) (metrics : Metrics)
    (chunks : List Bytes) :
    (fresh client shared metrics).receiveAll behaviour chunks =
      (fresh client shared metrics).drain behaviour chunks.flatten :=
  (settled_fresh client shared metrics).receiveAll_eq chunks

/-- **How a stream is cut does not matter.** From the first byte on, a connection sends the same bytes for it and ends in
the same state: open or closed alike, with the same waiting bytes, client, scopes, topology, memory and counters. -/
theorem receiveAll_congr (behaviour : Behaviour H M) (client : Client H) (shared : Shared H M) (metrics : Metrics)
    {chunks chunks' : List Bytes} (h : chunks.flatten = chunks'.flatten) :
    (fresh client shared metrics).receiveAll behaviour chunks =
      (fresh client shared metrics).receiveAll behaviour chunks' := by
  rw [receiveAll_fresh, receiveAll_fresh, h]

/-- Two empty operations, a header cut in the middle and the beginning of a third one, against the same bytes one by
one. -/
theorem receiveAll_congr_noop :
    let noop : Bytes := [0x80, 0x0a] ++ List.replicate 22 0
    let chunks := [noop.take 10, noop.drop 10 ++ noop ++ [0x80]]
    let bytes := (noop ++ noop ++ [0x80]).map fun b => [b]
    let behaviour : Behaviour Builtin Unit := fun service _ ex p => .finished (service.run ex p)
    let shared : Shared Builtin Unit := ⟨.empty, Builtin.registerAll .standard id .empty, .initial, ()⟩
    chunks.flatten = bytes.flatten ∧
      (fresh (.create 1 0) shared .zero).receiveAll behaviour chunks =
        (fresh (.create 1 0) shared .zero).receiveAll behaviour bytes := by
  intro noop chunks bytes behaviour shared
  have h : chunks.flatten = bytes.flatten := by decide
  exact ⟨h, receiveAll_congr behaviour (.create 1 0) shared .zero h⟩

end MockCluster.Kv.Session
