import Mathlib.Algebra.Group.Nat.Defs
import Mathlib.Data.List.Induction
import MockCluster.Binary.Frame

/-!
# Headers as bytes

A header is ten numbers in 24 bytes. Writing a header and reading it back gives the header, except that the four
lengths are reduced to the width of their places (`Header.read_write`). Reading 24 bytes and writing what was read gives
the same bytes back, in both layouts (`Header.write_read`).

The two layouts agree on a header without framing extras and with a short key: the high byte of the plain key length
then stands where the extended layout has the framing length, and both are zero. Such a header may change its layout, and
only its first byte changes (`Header.write_of_magic`).
-/

namespace MockCluster

namespace Bytes

/-- Reading what was written gives the value back, reduced to the digits that were written. -/
theorem ofBigEndian_bigEndian (width value : Nat) :
    ofBigEndian (bigEndian width value) = value % 256 ^ width := by
  induction width generalizing value with
  | zero => simp [bigEndian, ofBigEndian, Nat.mod_one]
  | succ width ih =>
    rw [bigEndian, ofBigEndian_concat, ih, Nat.pow_succ, Nat.mul_comm (256 ^ width) 256,
      Nat.mod_mul (x := value) (a := 256) (b := 256 ^ width)]
    simp only [UInt8.toNat_ofNat']
    omega

/-- Writing what was read gives the bytes back. -/
theorem bigEndian_ofBigEndian (bytes : Bytes) : bigEndian bytes.length (ofBigEndian bytes) = bytes := by
  induction bytes using List.reverseRecOn with
  | nil => rfl
  | append_singleton bytes b ih =>
    have hb := b.toNat_lt
    have hdiv : (ofBigEndian bytes * 256 + b.toNat) / 256 = ofBigEndian bytes := by omega
    have hmod : UInt8.ofNat (ofBigEndian bytes * 256 + b.toNat) = b := by
      apply UInt8.toNat_inj.1
      rw [UInt8.toNat_ofNat']
      omega
    rw [List.length_append, List.length_singleton, ofBigEndian_concat, bigEndian, hdiv, hmod, ih]

theorem ofBigEndian_lt (bytes : Bytes) : ofBigEndian bytes < 256 ^ bytes.length := by
  induction bytes using List.reverseRecOn with
  | nil => simp [ofBigEndian]
  | append_singleton bytes b ih =>
    have hb := b.toNat_lt
    rw [ofBigEndian_concat, List.length_append, List.length_singleton, Nat.pow_succ]
    omega

/-- Neighbouring parts of a byte string make one part. -/
theorem take_drop_append (bytes : Bytes) {offset next : Nat} (width more : Nat) (h : offset + width = next) :
    (bytes.drop offset).take width ++ (bytes.drop next).take more = (bytes.drop offset).take (width + more) := by
  rw [List.take_add, List.drop_drop, h]

end Bytes

theorem Magic.code_of_ofCode? {m : Magic} {b : UInt8} (h : Magic.ofCode? b = some m) : m.code = b := by
  simpa using List.find?_some h

theorem Status.code_of_ofCode? {status : Status} {n : UInt16} (h : Status.ofCode? n = some status) :
    status.code = n := by
  simpa using List.find?_some h

theorem Command.code_of_ofCode? {command : Command} {b : UInt8} (h : Command.ofCode? b = some command) :
    command.code = b := by
  simpa using List.find?_some h

namespace Header

/-! ### Places in a header -/

theorem field_append_left {offset width : Nat} {front : Bytes} (h : offset + width ≤ front.length)
    (rest : Bytes) : field offset width (front ++ rest) = field offset width front := by
  unfold field
  rw [List.drop_append_of_le_length (by omega),
    List.take_append_of_le_length (by rw [List.length_drop]; omega)]

theorem field_append_right {offset width : Nat} {front : Bytes} (h : front.length ≤ offset)
    (rest : Bytes) : field offset width (front ++ rest) = field (offset - front.length) width rest := by
  unfold field
  rw [List.drop_append, List.drop_of_length_le h, List.nil_append]

theorem field_succ_cons (offset width : Nat) (b : UInt8) (rest : Bytes) :
    field (offset + 1) width (b :: rest) = field offset width rest := rfl

theorem field_zero_cons (b : UInt8) (rest : Bytes) : field 0 1 (b :: rest) = b.toNat := by
  simp [field, Bytes.ofBigEndian]

theorem field_zero {width : Nat} {bytes : Bytes} (h : bytes.length = width) :
    field 0 width bytes = Bytes.ofBigEndian bytes := by
  unfold field
  rw [List.drop_zero, ← h, List.take_length]

theorem field_lt (offset width : Nat) (bytes : Bytes) : field offset width bytes < 256 ^ width := by
  have hlt := Bytes.ofBigEndian_lt ((bytes.drop offset).take width)
  have hle : ((bytes.drop offset).take width).length ≤ width := List.length_take_le ..
  exact Nat.lt_of_lt_of_le hlt (Nat.pow_le_pow_right (by decide) hle)

theorem bigEndian_field {offset width : Nat} {bytes : Bytes} (h : offset + width ≤ bytes.length) :
    Bytes.bigEndian width (field offset width bytes) = (bytes.drop offset).take width := by
  have hl : ((bytes.drop offset).take width).length = width := by
    rw [List.length_take, List.length_drop]
    omega
  have hw := Bytes.bigEndian_ofBigEndian ((bytes.drop offset).take width)
  rwa [hl] at hw

/-! ### Writing and reading back -/

/-- The header that is left of a header once it is written: lengths that do not fit have lost their high digits, and
the plain layout has no place for a framing length. -/
def stored (h : Header) : Header :=
  { h with
    framingLength := if h.magic.isExtended then h.framingLength % 256 else 0
    keyLength := if h.magic.isExtended then h.keyLength % 256 else h.keyLength % 65536
    extrasLength := h.extrasLength % 256
    bodyLength := h.bodyLength % 4294967296 }

theorem headD_write (h : Header) : h.write.headD 0 = h.magic.code := by
  simp [write]

/-- **Only lengths can be lost.** A header reads back with every length reduced to its place. -/
theorem read_write (h : Header) : read h.magic h.write = h.stored := by
  unfold read write stored
  cases h.magic.isExtended <;>
    simp (disch := simp) [field_append_left, field_append_right, field_succ_cons, field_zero_cons, field_zero,
      Bytes.ofBigEndian_bigEndian]

/-- The two bytes of framing length and key length are kept in either layout. -/
theorem write_read_lengths (magic : Magic) {head : Bytes} (hl : head.length = size) :
    (if (read magic head).magic.isExtended then
        Bytes.bigEndian 1 (read magic head).framingLength ++ Bytes.bigEndian 1 (read magic head).keyLength
      else Bytes.bigEndian 2 (read magic head).keyLength) = (head.drop 2).take 2 := by
  have hs : size = 24 := rfl
  unfold read
  cases magic.isExtended
  · exact bigEndian_field (by omega)
  · simp only [if_true]
    rw [bigEndian_field (by omega), bigEndian_field (by omega), Bytes.take_drop_append head 1 1 rfl]

theorem singleton_field {offset : Nat} {bytes : Bytes} (h : offset + 1 ≤ bytes.length) :
    [UInt8.ofNat (field offset 1 bytes)] = (bytes.drop offset).take 1 :=
  bigEndian_field h

/-- **No header byte is lost.** What was read from 24 bytes is written as the same 24 bytes. -/
theorem write_read {magic : Magic} {head : Bytes} (hm : Magic.ofCode? (head.headD 0) = some magic)
    (hl : head.length = size) : (read magic head).write = head := by
  have hs : size = 24 := rfl
  have hmagic : [magic.code] = (head.drop 0).take 1 := by
    cases head with
    | nil => cases hl
    | cons b rest => simpa using Magic.code_of_ofCode? hm
  have hopcode : [(read magic head).opcode] = (head.drop 1).take 1 := singleton_field (by omega)
  have hextras : Bytes.bigEndian 1 (read magic head).extrasLength = (head.drop 4).take 1 :=
    bigEndian_field (by omega)
  have hdatatype : [(read magic head).datatype] = (head.drop 5).take 1 := singleton_field (by omega)
  have hvbucket : Bytes.bigEndian 2 (read magic head).vbucketOrStatus.toNat = (head.drop 6).take 2 := by
    have : (read magic head).vbucketOrStatus.toNat = field 6 2 head :=
      UInt16.toNat_ofNat_of_lt' (field_lt 6 2 head)
    rw [this, bigEndian_field (by omega)]
  have hbody : Bytes.bigEndian 4 (read magic head).bodyLength = (head.drop 8).take 4 :=
    bigEndian_field (by omega)
  have hopaque : Bytes.bigEndian 4 (read magic head).opaqueId.toNat = (head.drop 12).take 4 := by
    have : (read magic head).opaqueId.toNat = field 12 4 head :=
      UInt32.toNat_ofNat_of_lt' (field_lt 12 4 head)
    rw [this, bigEndian_field (by omega)]
  have hcas : Bytes.bigEndian 8 (read magic head).cas.toNat = (head.drop 16).take 8 := by
    have : (read magic head).cas.toNat = field 16 8 head :=
      UInt64.toNat_ofNat_of_lt' (field_lt 16 8 head)
    rw [this, bigEndian_field (by omega)]
  have hfront : [(read magic head).magic.code, (read magic head).opcode] = (head.drop 0).take 2 := by
    rw [← Bytes.take_drop_append head 1 1 rfl, ← hmagic, ← hopcode]
    rfl
  rw [write, hfront, write_read_lengths magic hl, hextras, hdatatype, hvbucket, hbody, hopaque, hcas,
    Bytes.take_drop_append head 2 2 rfl, Bytes.take_drop_append head 4 1 rfl,
    Bytes.take_drop_append head 5 1 rfl, Bytes.take_drop_append head 6 2 rfl,
    Bytes.take_drop_append head 8 4 rfl, Bytes.take_drop_append head 12 4 rfl,
    Bytes.take_drop_append head 16 8 rfl, List.drop_zero]
  exact List.take_of_length_le (by omega)

theorem keyLength_read_lt {magic : Magic} (hx : magic.isExtended = true) (head : Bytes) :
    (read magic head).keyLength < 256 := by
  simpa [read, hx] using field_lt 3 1 head

/-- A header without framing extras and with a short key may change its magic: only the first byte changes, also where
the layout changes with it. -/
theorem write_of_magic {h : Header} (hf : h.framingLength = 0) (hk : h.keyLength < 256) (magic : Magic) :
    write { h with magic } = h.write.set 0 magic.code := by
  have hplain : Bytes.bigEndian 2 h.keyLength =
      Bytes.bigEndian 1 h.framingLength ++ Bytes.bigEndian 1 h.keyLength := by
    have hhigh : h.keyLength / 256 = 0 := by omega
    simp [Bytes.bigEndian, hhigh, hf]
  unfold write
  simp only [hplain, ite_self]
  rfl

/-- The header with the layout that its framing extras call for. -/
def relaid (h : Header) : Header :=
  { h with magic := .make h.magic.isRequest (decide (h.framingLength ≠ 0)) }

/-- **Choosing the layout anew changes one byte at most.** The layout that the framing extras call for is the one that
was read, unless the extended layout was used without any. -/
theorem write_relaid_read (magic : Magic) (head : Bytes) :
    (read magic head).relaid.write =
      if magic.isExtended = true ∧ (read magic head).framingLength = 0 then
        (read magic head).write.set 0 (Magic.make magic.isRequest false).code
      else (read magic head).write := by
  by_cases hbare : magic.isExtended = true ∧ (read magic head).framingLength = 0
  · obtain ⟨hx, hf⟩ := hbare
    rw [if_pos ⟨hx, hf⟩, relaid, write_of_magic hf (keyLength_read_lt hx head), hf]
    rfl
  · have hmake : decide ((read magic head).framingLength ≠ 0) = (read magic head).magic.isExtended := by
      cases hx : magic.isExtended with
      | false => simp [read, hx]
      | true => simpa [hx, read] using hbare
    rw [if_neg hbare, relaid, hmake, Magic.make_isRequest_isExtended]

end Header

end MockCluster
