import MockCluster.Binary.Frame

/-!
# What stands at the front

A frame is decided by its own bytes: it is found in them alone (`decode_take`), and what comes later does not change it
(`decode_append`). The same goes for malformed frames; only the beginning of a frame can turn into something else.
-/

namespace MockCluster

/-- A header and a whole body are taken apart. -/
theorem decode_eq_decodeBody {data : Bytes} {magic : Magic}
    (hm : Magic.ofCode? ((data.take Header.size).headD 0) = some magic)
    (hmax : (Header.read magic (data.take Header.size)).bodyLength ≤ FrameFault.maxBody)
    (hle : Header.size + (Header.read magic (data.take Header.size)).bodyLength ≤ data.length) :
    decode data = (Header.read magic (data.take Header.size)).decodeBody
      ((data.drop Header.size).take (Header.read magic (data.take Header.size)).bodyLength) := by
  unfold decode Decoded.ofHead
  simp only [hm]
  rw [if_neg (by rw [List.length_take]; omega), if_neg (by omega),
    if_neg (by rw [List.length_take, List.length_drop]; omega)]

/-- What is known of the bytes at the front of which a frame was found. -/
theorem exists_magic_of_decode {data : Bytes} {frame : Frame} {n : Nat} (hd : decode data = .frame frame n) :
    ∃ magic, Magic.ofCode? ((data.take Header.size).headD 0) = some magic ∧
      (Header.read magic (data.take Header.size)).bodyLength ≤ FrameFault.maxBody ∧
      Header.size + (Header.read magic (data.take Header.size)).bodyLength ≤ data.length ∧
      (Header.read magic (data.take Header.size)).decodeBody
        ((data.drop Header.size).take (Header.read magic (data.take Header.size)).bodyLength) = .frame frame n := by
  simp only [decode] at hd
  split at hd
  · cases hd
  · rename_i hhead
    simp only [Decoded.ofHead] at hd
    split at hd
    · cases hd
    · rename_i magic hm
      split at hd
      · cases hd
      · rename_i hmax
        split at hd
        · cases hd
        · rename_i hbody
          refine ⟨magic, hm, by omega, ?_, hd⟩
          simp only [List.length_take, List.length_drop] at hhead hbody
          omega

/-- **A frame is found in its own bytes.** -/
theorem decode_take {data : Bytes} {frame : Frame} {n : Nat} (hd : decode data = .frame frame n) :
    decode (data.take n) = .frame frame n := by
  obtain ⟨magic, hm, hmax, hle, hbody⟩ := exists_magic_of_decode hd
  have hn := Header.size_of_decodeBody hbody
  have hhead : (data.take n).take Header.size = data.take Header.size := by
    rw [List.take_take, Nat.min_eq_left (by omega)]
  have hrest : (data.take n).drop Header.size =
      (data.drop Header.size).take (Header.read magic (data.take Header.size)).bodyLength := by
    rw [hn, List.drop_take, Nat.add_sub_cancel_left]
  rw [← hhead] at hm hmax
  rw [decode_eq_decodeBody hm hmax (by rw [hhead, List.length_take]; omega), hhead, hrest, List.take_take,
    Nat.min_self, hbody]

theorem Decoded.ofHead_append {head rest : Bytes} (h : ofHead head rest ≠ .incomplete) (tail : Bytes) :
    ofHead head (rest ++ tail) = ofHead head rest := by
  unfold ofHead at h ⊢
  cases hm : Magic.ofCode? (head.headD 0) with
  | none => rfl
  | some magic =>
    simp only [hm] at h ⊢
    by_cases hle : (Header.read magic head).bodyLength ≤ rest.length
    · rw [List.take_append_of_le_length hle]
    · by_cases hmax : FrameFault.maxBody < (Header.read magic head).bodyLength
      · rw [if_pos hmax, if_pos hmax]
      · rw [if_neg hmax, if_pos (by rw [List.length_take]; omega)] at h
        exact absurd rfl h

/-- **Later bytes do not change what was found.** Complete, unsupported and malformed frames stay what they are when more
bytes arrive. -/
theorem decode_append {data : Bytes} (h : decode data ≠ .incomplete) (tail : Bytes) :
    decode (data ++ tail) = decode data := by
  unfold decode at h ⊢
  by_cases hl : (data.take Header.size).length < Header.size
  · exact absurd (if_pos hl) h
  · have hle : Header.size ≤ data.length := by
      rw [List.length_take] at hl
      omega
    simp only [List.take_append_of_le_length hle, List.drop_append_of_le_length hle, if_neg hl] at h ⊢
    exact Decoded.ofHead_append h tail

/-- A frame is found whatever stands behind it. -/
theorem decode_take_append {data : Bytes} {frame : Frame} {n : Nat} (hd : decode data = .frame frame n)
    (tail : Bytes) : decode (data.take n ++ tail) = .frame frame n := by
  rw [decode_append (by simp [decode_take hd]), decode_take hd]

end MockCluster
