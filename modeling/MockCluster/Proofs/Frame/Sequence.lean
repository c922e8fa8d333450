import Mathlib.Data.List.Forall2
import MockCluster.Proofs.Frame.Prefix

/-!
# Frame after frame

`decodeAll` cuts frames off a byte string until there is no complete one. Whoever sent the bytes chose the lengths in
them, but

* every frame takes a header at least, so there are few of them (`decodeWithin_eq`);
* the slices they were found in, and what is left over, are the byte string (`exists_slices_decodeAll`);
* not much is left over if more bytes may complete a frame (`length_of_decode_incomplete`);
* a byte string may be cut anywhere, and its parts be decoded one after the other (`decodeAll_append`).
-/

namespace MockCluster

/-- Cuts off frames as `decodeAll` does, but gives up if that takes more than the given number of steps. -/
def decodeWithin : (steps : Nat) → Bytes → Option Frames
  | 0, _ => none
  | steps + 1, data =>
    match decode data with
    | .incomplete => some ⟨[], .incomplete, data⟩
    | .invalid fault => some ⟨[], .invalid fault, data⟩
    | .frame frame size =>
      (decodeWithin steps (data.drop size)).map fun more => { more with frames := (frame, size) :: more.frames }

/-- Why decoding stopped, as what stands at the front. -/
def Stop.decoded : Stop → Decoded
  | incomplete => .incomplete
  | invalid fault => .invalid fault

/-- A header with its whole body is a frame or malformed. -/
theorem Header.decodeBody_ne_incomplete (h : Header) (body : Bytes) : h.decodeBody body ≠ .incomplete := by
  unfold decodeBody
  split
  · nofun
  · split
    · nofun
    · split <;> nofun

theorem length_of_decode_incomplete {data : Bytes} (h : decode data = .incomplete) :
    data.length < Header.size + FrameFault.maxBody := by
  have positive : 0 < FrameFault.maxBody := by decide
  simp only [decode, List.length_take] at h
  split at h
  · omega
  · simp only [Decoded.ofHead] at h
    split at h
    · cases h
    · split at h
      · cases h
      · split at h
        · rename_i short
          simp only [List.length_take, List.length_drop] at short
          omega
        · exact absurd h (Header.decodeBody_ne_incomplete _ _)

/-- There are no more frames than headers fit in. -/
theorem decodeWithin_eq {steps : Nat} {data : Bytes} (enough : data.length / Header.size < steps) :
    decodeWithin steps data = some (decodeAll data) := by
  induction steps generalizing data with
  | zero => exact absurd enough (Nat.not_lt_zero _)
  | succ steps ih =>
    unfold decodeWithin
    cases hd : decode data with
    | incomplete => rw [decodeAll_incomplete hd]
    | invalid fault => rw [decodeAll_invalid hd]
    | frame frame size =>
      obtain ⟨least, most⟩ := size_of_decode hd
      have fewer : (data.drop size).length / Header.size < steps := by
        have less : (data.drop size).length + Header.size ≤ data.length := by
          rw [List.length_drop]
          omega
        have := Nat.div_le_div_right (c := Header.size) less
        rw [Nat.add_div_right _ (by decide)] at this
        omega
      simp only [ih fewer, decodeAll_frame hd, Option.map_some]

theorem decode_left (data : Bytes) : decode (decodeAll data).left = (decodeAll data).stop.decoded := by
  induction data using decodeAll.induct with
  | case1 data hd => rw [decodeAll_incomplete hd]; exact hd
  | case2 data fault hd => rw [decodeAll_invalid hd]; exact hd
  | case3 data frame size hd ih => rw [decodeAll_frame hd]; exact ih

/-- **Nothing is lost.** Each frame is found in a slice of its own, and the slices and what is left over are all of the
bytes. -/
theorem exists_slices_decodeAll (data : Bytes) :
    ∃ slices, List.Forall₂ (fun entry slice => decode slice = .frame entry.1 entry.2 ∧ slice.length = entry.2)
        (decodeAll data).frames slices ∧
      slices.flatten ++ (decodeAll data).left = data := by
  induction data using decodeAll.induct with
  | case1 data hd => rw [decodeAll_incomplete hd]; exact ⟨[], .nil, rfl⟩
  | case2 data fault hd => rw [decodeAll_invalid hd]; exact ⟨[], .nil, rfl⟩
  | case3 data frame size hd ih =>
    obtain ⟨slices, found, whole⟩ := ih
    rw [decodeAll_frame hd]
    refine ⟨data.take size :: slices, .cons ⟨decode_take hd, ?_⟩ found, ?_⟩
    · exact List.length_take_of_le (size_of_decode hd).2
    · rw [List.flatten_cons, List.append_assoc, whole, List.take_append_drop]

/-- **Decoding in two steps.** If more bytes could complete a frame, decoding goes on with what is left over. -/
theorem decodeAll_append {data : Bytes} (h : (decodeAll data).stop = .incomplete) (more : Bytes) :
    decodeAll (data ++ more) =
      { decodeAll ((decodeAll data).left ++ more) with
        frames := (decodeAll data).frames ++ (decodeAll ((decodeAll data).left ++ more)).frames } := by
  induction data using decodeAll.induct with
  | case1 data hd => rw [decodeAll_incomplete hd]; rfl
  | case2 data fault hd => rw [decodeAll_invalid hd] at h; cases h
  | case3 data frame size hd ih =>
    have hd' : decode (data ++ more) = .frame frame size := by rw [decode_append (by simp [hd]), hd]
    rw [decodeAll_frame hd] at h ⊢
    rw [decodeAll_frame hd', List.drop_append_of_le_length (size_of_decode hd).2, ih h]
    rfl

/-- If decoding found a fault, it finds it whatever follows. -/
theorem decodeAll_append_of_invalid {data : Bytes} {fault : FrameFault} (h : (decodeAll data).stop = .invalid fault)
    (more : Bytes) :
    decodeAll (data ++ more) = { decodeAll data with left := (decodeAll data).left ++ more } := by
  induction data using decodeAll.induct with
  | case1 data hd => rw [decodeAll_incomplete hd] at h; cases h
  | case2 data fault hd =>
    have hd' : decode (data ++ more) = .invalid fault := by rw [decode_append (by simp [hd]), hd]
    rw [decodeAll_invalid hd, decodeAll_invalid hd']
  | case3 data frame size hd ih =>
    have hd' : decode (data ++ more) = .frame frame size := by rw [decode_append (by simp [hd]), hd]
    rw [decodeAll_frame hd] at h ⊢
    rw [decodeAll_frame hd', List.drop_append_of_le_length (size_of_decode hd).2, ih h]

/-- **Any bytes can be decoded, and cut anywhere.** Decoding ends after one step for each 24 bytes and one more. Every
frame takes 24 bytes at least and is found in a slice of its own; the slices and what is left over are the byte string.
Less than the longest frame is left over if a frame has begun there. When a byte string is cut in two, its frames are
those of the first part and then those of what that left over and the second part; but if the first part has a fault, its
frames and its fault are those of the whole. -/
theorem decodeAll_bounded (data : Bytes) :
    decodeWithin (data.length / 24 + 1) data = some (decodeAll data) ∧
    (∃ slices, List.Forall₂
        (fun entry slice => decode slice = .frame entry.1 entry.2 ∧ slice.length = entry.2 ∧ 24 ≤ slice.length)
        (decodeAll data).frames slices ∧
      slices.flatten ++ (decodeAll data).left = data) ∧
    ((decodeAll data).stop = .incomplete → (decodeAll data).left.length < 24 + 20 * 1024 * 1024) ∧
    ∀ first second, data = first ++ second →
      ((decodeAll first).stop = .incomplete →
        decodeAll data =
          { decodeAll ((decodeAll first).left ++ second) with
            frames := (decodeAll first).frames ++ (decodeAll ((decodeAll first).left ++ second)).frames }) ∧
      ∀ fault, (decodeAll first).stop = .invalid fault →
        (decodeAll data).frames = (decodeAll first).frames ∧ (decodeAll data).stop = .invalid fault := by
  refine ⟨decodeWithin_eq (Nat.lt_succ_self _), ?_, fun h => ?_, ?_⟩
  · obtain ⟨slices, found, whole⟩ := exists_slices_decodeAll data
    refine ⟨slices, found.imp fun entry slice ⟨hd, hl⟩ => ⟨hd, hl, ?_⟩, whole⟩
    rw [hl]
    exact (size_of_decode hd).1
  · have stopped := decode_left data
    rw [h] at stopped
    exact length_of_decode_incomplete stopped
  · rintro first second rfl
    refine ⟨fun h => decodeAll_append h second, fun fault h => ?_⟩
    rw [decodeAll_append_of_invalid h]
    exact ⟨rfl, h⟩

/-- Two empty operations, the second of which is cut in its header, and then bytes that are no header. -/
theorem decodeAll_bounded_cut :
    let noop : Bytes := [0x80, 0x0a] ++ List.replicate 22 0
    let first := noop ++ noop.take 5
    let second := noop.drop 5 ++ List.replicate 24 0x42
    (decodeAll first).stop = .incomplete ∧
      decodeAll (first ++ second) =
        { decodeAll (noop.take 5 ++ second) with
          frames := (decodeAll first).frames ++ (decodeAll (noop.take 5 ++ second)).frames } ∧
      ((decodeAll (first ++ second)).frames.length, (decodeAll (first ++ second)).stop) =
        (2, .invalid (.badMagic 0x42)) := by
  intro noop first second
  have waits : (decodeAll first).stop = .incomplete := by cbv
  have left : (decodeAll first).left = noop.take 5 := by cbv
  obtain ⟨-, -, -, cut⟩ := decodeAll_bounded (first ++ second)
  rw [← left]
  exact ⟨waits, (cut first second rfl).1 waits, by cbv⟩

end MockCluster
