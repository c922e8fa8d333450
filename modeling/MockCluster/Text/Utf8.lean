import MockCluster.Bytes

/-!
# UTF-8

`encode` writes text as bytes. `scan` reads bytes as a sequence of characters and faults: a fault is a longest
prefix of a well-formed sequence that cannot be continued, or one byte that starts none. `decode?` accepts
fault-free input only; `decodeLossy` shows each fault as the replacement character U+FFFD.
-/

namespace MockCluster.Utf8

/-- The UTF-8 bytes of a text. -/
def encode (text : String) : Bytes :=
  text.toList.flatMap String.utf8EncodeChar

/-- What a lead byte announces: how many bytes follow, the range of the first of them, and its payload bits. -/
structure Lead where
  /-- The number of bytes that follow. -/
  following : Nat
  /-- The least byte that may come next. -/
  low : UInt8
  /-- The greatest byte that may come next. -/
  high : UInt8
  /-- The payload bits of the lead byte. -/
  payload : Nat

/-- The lead bytes of the well-formed sequences of two to four bytes. The narrowed ranges exclude overlong forms,
surrogates and values above U+10FFFF. -/
def lead? (b : UInt8) : Option Lead :=
  if 0xC2 ≤ b ∧ b ≤ 0xDF then some ⟨1, 0x80, 0xBF, b.toNat % 32⟩
  else if b = 0xE0 then some ⟨2, 0xA0, 0xBF, 0⟩
  else if b = 0xED then some ⟨2, 0x80, 0x9F, 13⟩
  else if 0xE1 ≤ b ∧ b ≤ 0xEF then some ⟨2, 0x80, 0xBF, b.toNat % 16⟩
  else if b = 0xF0 then some ⟨3, 0x90, 0xBF, 0⟩
  else if 0xF1 ≤ b ∧ b ≤ 0xF3 then some ⟨3, 0x80, 0xBF, b.toNat % 8⟩
  else if b = 0xF4 then some ⟨3, 0x80, 0x8F, 4⟩
  else none

/-- Reads `following` more bytes onto the payload; the first byte out of range is left unread. -/
def finish : (following : Nat) → (low high : UInt8) → (payload : Nat) → Bytes → Option Char × Bytes
  | 0, _, _, payload, rest => (some (Char.ofNat payload), rest)
  | _ + 1, _, _, _, [] => (none, [])
  | following + 1, low, high, payload, b :: rest =>
    if low ≤ b ∧ b ≤ high then finish following 0x80 0xBF (payload * 64 + b.toNat % 64) rest
    else (none, b :: rest)

/-- One character or one fault from a byte and what follows it, and the bytes left. -/
def step (b : UInt8) (rest : Bytes) : Option Char × Bytes :=
  if b < 0x80 then (some (Char.ofNat b.toNat), rest)
  else match lead? b with
    | none => (none, rest)
    | some l => finish l.following l.low l.high l.payload rest

theorem length_finish_le (following : Nat) (low high : UInt8) (payload : Nat) (rest : Bytes) :
    (finish following low high payload rest).2.length ≤ rest.length := by
  induction following generalizing low high payload rest with
  | zero => simp [finish]
  | succ following ih =>
    cases rest with
    | nil => simp [finish]
    | cons b rest =>
      unfold finish
      split
      · have := ih 0x80 0xBF (payload * 64 + b.toNat % 64) rest
        simp only [List.length_cons]; omega
      · simp

theorem length_step_le (b : UInt8) (rest : Bytes) : (step b rest).2.length ≤ rest.length := by
  unfold step
  split
  · simp
  · split
    · simp
    · exact length_finish_le ..

/-- The characters and faults (`none`) of a byte string. -/
def scan : Bytes → List (Option Char)
  | [] => []
  | b :: rest => (step b rest).1 :: scan (step b rest).2
termination_by bytes => bytes.length
decreasing_by
  have := length_step_le b rest
  simp only [List.length_cons]; omega

/-- The text that the bytes encode, if they are well formed. -/
def decode? (bytes : Bytes) : Option String :=
  ((scan bytes).mapM id).map String.ofList

/-- The text that the bytes encode, with U+FFFD for each fault. -/
def decodeLossy (bytes : Bytes) : String :=
  String.ofList ((scan bytes).map (·.getD '\uFFFD'))

end MockCluster.Utf8
