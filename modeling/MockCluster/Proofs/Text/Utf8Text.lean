import MockCluster.Text.Utf8
import Mathlib.Algebra.Group.Nat.Defs

/-!
# Text and its bytes

A character is read back from its bytes (`step_encode`), and what is read as a character is its bytes (`step_eq_some`).
So the well-formed byte strings are those of a text, and they are read as the text that they came from
(`decode?_eq_some_iff`). All others have a fault, and show it: the replacement character is in the text that is made of
them (`exists_malformed_iff`).
-/

namespace MockCluster.Utf8

section Writing

variable {low high : UInt8} {n : Nat} {rest : Bytes}

/-- A byte that continues a sequence adds six bits to what was read before. -/
theorem finish_cons_of_le (following payload : Nat) (rest : Bytes) (hl : low.toNat ≤ n % 64 + 128)
    (hh : n % 64 + 128 ≤ high.toNat) :
    finish (following + 1) low high payload (UInt8.ofNat (n % 64 + 128) :: rest) =
      finish following 0x80 0xBF (payload * 64 + n % 64) rest := by
  have small : n % 64 + 128 < 256 := by omega
  have value : (UInt8.ofNat (n % 64 + 128)).toNat = n % 64 + 128 := UInt8.toNat_ofNat_of_lt' small
  rw [finish, if_pos ⟨by rwa [UInt8.le_iff_toNat_le, value], by rwa [UInt8.le_iff_toNat_le, value]⟩, value]
  congr 2
  omega

/-- What the byte of a number announces. -/
theorem lead?_ofNat (h : n < 256) :
    lead? (UInt8.ofNat n) =
      if 194 ≤ n ∧ n ≤ 223 then some ⟨1, 0x80, 0xBF, n % 32⟩
      else if n = 224 then some ⟨2, 0xA0, 0xBF, 0⟩
      else if n = 237 then some ⟨2, 0x80, 0x9F, 13⟩
      else if 225 ≤ n ∧ n ≤ 239 then some ⟨2, 0x80, 0xBF, n % 16⟩
      else if n = 240 then some ⟨3, 0x90, 0xBF, 0⟩
      else if 241 ≤ n ∧ n ≤ 243 then some ⟨3, 0x80, 0xBF, n % 8⟩
      else if n = 244 then some ⟨3, 0x80, 0x8F, 4⟩
      else none := by
  have value : (UInt8.ofNat n).toNat = n := UInt8.toNat_ofNat_of_lt' h
  simp only [lead?, UInt8.le_iff_toNat_le, ← UInt8.toNat_inj, value]
  rfl

/-- The first byte of a sequence of several bytes decides how the others are read. -/
theorem step_ofNat {l : Lead} (several : 128 ≤ n) (h : n < 256) (hl : lead? (UInt8.ofNat n) = some l) (rest : Bytes) :
    step (UInt8.ofNat n) rest = finish l.following l.low l.high l.payload rest := by
  have value : (UInt8.ofNat n).toNat = n := UInt8.toNat_ofNat_of_lt' h
  rw [step, if_neg (by rw [UInt8.lt_iff_toNat_lt, value]; exact Nat.not_lt.2 several), hl]

/-- The first of three bytes excludes overlong forms and surrogates. -/
theorem lead?_three (hl : ¬n ≤ 2047) (hh : n ≤ 65535) (valid : n < 55296 ∨ 57343 < n ∧ n < 1114112) :
    ∃ low high, lead? (UInt8.ofNat (n / 4096 % 16 + 224)) = some ⟨2, low, high, n / 4096⟩ ∧
      low.toNat ≤ n / 64 % 64 + 128 ∧ n / 64 % 64 + 128 ≤ high.toNat := by
  have byte : n / 4096 % 16 + 224 = n / 4096 + 224 := by omega
  rw [byte, lead?_ofNat (by omega), if_neg (by omega)]
  by_cases overlong : n / 4096 = 0
  · refine ⟨0xA0, 0xBF, by rw [overlong]; rfl, show 160 ≤ _ by omega, show _ ≤ 191 by omega⟩
  by_cases surrogate : n / 4096 = 13
  · refine ⟨0x80, 0x9F, by rw [surrogate]; rfl, Nat.le_add_left 128 _, show _ ≤ 159 by omega⟩
  refine ⟨0x80, 0xBF, ?_, Nat.le_add_left 128 _, show _ ≤ 191 by omega⟩
  rw [if_neg (by omega), if_neg (by omega), if_pos (by omega)]
  congr 2
  omega

/-- The first of four bytes excludes overlong forms and numbers that are too great. -/
theorem lead?_four (hl : ¬n ≤ 65535) (hh : n < 1114112) :
    ∃ low high, lead? (UInt8.ofNat (n / 262144 % 8 + 240)) = some ⟨3, low, high, n / 262144⟩ ∧
      low.toNat ≤ n / 4096 % 64 + 128 ∧ n / 4096 % 64 + 128 ≤ high.toNat := by
  have byte : n / 262144 % 8 + 240 = n / 262144 + 240 := by omega
  rw [byte, lead?_ofNat (by omega), if_neg (by omega), if_neg (by omega), if_neg (by omega), if_neg (by omega)]
  by_cases overlong : n / 262144 = 0
  · refine ⟨0x90, 0xBF, by rw [overlong]; rfl, show 144 ≤ _ by omega, show _ ≤ 191 by omega⟩
  by_cases great : n / 262144 = 4
  · refine ⟨0x80, 0x8F, by rw [great]; rfl, Nat.le_add_left 128 _, show _ ≤ 143 by omega⟩
  refine ⟨0x80, 0xBF, ?_, Nat.le_add_left 128 _, show _ ≤ 191 by omega⟩
  rw [if_neg (by omega), if_pos (by omega)]
  congr 2
  omega

/-- **A character is read back from its bytes.** -/
theorem step_encode (c : Char) (rest : Bytes) :
    ∃ first more, String.utf8EncodeChar c = first :: more ∧ step first (more ++ rest) = (some c, rest) := by
  have valid : c.val.toNat < 55296 ∨ 57343 < c.val.toNat ∧ c.val.toNat < 1114112 := c.valid
  have same : Char.ofNat c.val.toNat = c := Char.ofNat_toNat c
  unfold String.utf8EncodeChar
  generalize c.val.toNat = v at valid same
  dsimp only
  split
  case isTrue single =>
    have value : (UInt8.ofNat v).toNat = v := UInt8.toNat_ofNat_of_lt' (show v < 256 by omega)
    refine ⟨_, _, rfl, ?_⟩
    rw [step, if_pos (by rw [UInt8.lt_iff_toNat_lt, value]; exact Nat.lt_succ_of_le single), value, same]
    rfl
  case isFalse several =>
    split
    case isTrue two =>
      have lead : lead? (UInt8.ofNat (v / 64 % 32 + 192)) = some ⟨1, 0x80, 0xBF, v / 64⟩ := by
        rw [lead?_ofNat (by omega), if_pos (by omega)]
        congr 2
        omega
      refine ⟨_, _, rfl, ?_⟩
      rw [step_ofNat (by omega) (by omega) lead, List.singleton_append,
        finish_cons_of_le 0 _ _ (Nat.le_add_left 128 _) (show _ ≤ 191 by omega), finish,
        show v / 64 * 64 + v % 64 = v by omega, same]
    case isFalse more =>
      split
      case isTrue three =>
        obtain ⟨low, high, lead, hl, hh⟩ := lead?_three more three valid
        refine ⟨_, _, rfl, ?_⟩
        rw [step_ofNat (by omega) (by omega) lead, List.cons_append, List.singleton_append,
          finish_cons_of_le 1 _ _ hl hh,
          finish_cons_of_le 0 _ _ (Nat.le_add_left 128 _) (show _ ≤ 191 by omega), finish,
          show (v / 4096 * 64 + v / 64 % 64) * 64 + v % 64 = v by omega, same]
      case isFalse four =>
        obtain ⟨low, high, lead, hl, hh⟩ := lead?_four four (by omega)
        refine ⟨_, _, rfl, ?_⟩
        rw [step_ofNat (by omega) (by omega) lead, List.cons_append, List.cons_append, List.singleton_append,
          finish_cons_of_le 2 _ _ hl hh,
          finish_cons_of_le 1 _ _ (Nat.le_add_left 128 _) (show _ ≤ 191 by omega),
          finish_cons_of_le 0 _ _ (Nat.le_add_left 128 _) (show _ ≤ 191 by omega), finish,
          show ((v / 262144 * 64 + v / 4096 % 64) * 64 + v / 64 % 64) * 64 + v % 64 = v by omega, same]

end Writing

section Reading

variable {b x low high : UInt8} {l : Lead} {c : Char} {rest rest' : Bytes}

/-- The bytes that continue a sequence, for the lower digits of a number to the base 64. -/
def continuation : (following : Nat) → Nat → Bytes
  | 0, _ => []
  | following + 1, n => UInt8.ofNat (n / 64 ^ following % 64 + 128) :: continuation following n

/-- The next byte of a sequence that is read to its end is in range. -/
theorem finish_succ_eq_some {following payload : Nat}
    (h : finish (following + 1) low high payload rest = (some c, rest')) :
    ∃ x more, rest = x :: more ∧ low ≤ x ∧ x ≤ high ∧
      finish following 0x80 0xBF (payload * 64 + x.toNat % 64) more = (some c, rest') := by
  cases rest with
  | nil => cases h
  | cons x more =>
    rw [finish] at h
    split at h
    · rename_i range
      exact ⟨x, more, rfl, range.1, range.2, h⟩
    · cases h

theorem continuation_succ {following n upper : Nat} (hl : 0x80 ≤ x) (hh : x ≤ 0xBF)
    (h : n / 64 ^ following = upper * 64 + x.toNat % 64) :
    continuation (following + 1) n = x :: continuation following n := by
  have digit : (upper * 64 + x.toNat % 64) % 64 + 128 = x.toNat := by
    have low : 128 ≤ x.toNat := hl
    have high : x.toNat ≤ 191 := hh
    omega
  rw [continuation, h, digit, UInt8.ofNat_toNat]

/-- What is read to the end of a sequence is a number whose lower digits follow. -/
theorem finish_eq_some {following payload : Nat} (h : finish following 0x80 0xBF payload rest = (some c, rest')) :
    ∃ n, c = Char.ofNat n ∧ n / 64 ^ following = payload ∧ rest = continuation following n ++ rest' := by
  induction following generalizing payload rest with
  | zero =>
    cases h
    exact ⟨payload, rfl, by simp, rfl⟩
  | succ following ih =>
    obtain ⟨x, more, rfl, hl, hh, finished⟩ := finish_succ_eq_some h
    obtain ⟨n, rfl, upper, rfl⟩ := ih finished
    refine ⟨n, rfl, ?_, ?_⟩
    · rw [Nat.pow_succ, ← Nat.div_div_eq_div_mul, upper]
      omega
    · rw [continuation_succ hl hh upper]
      rfl

/-- A lead byte and the byte after it begin a number that needs as many bytes as announced. -/
theorem lead?_eq_some {n : Nat} (h : lead? b = some l) (hl : l.low ≤ x) (hh : x ≤ l.high)
    (begun : n = l.payload * 64 + x.toNat % 64) :
    128 ≤ x.toNat ∧ x.toNat ≤ 191 ∧
      (l.following = 1 ∧ b.toNat = n / 64 + 192 ∧ 128 ≤ n ∧ n < 2048 ∨
        l.following = 2 ∧ b.toNat = n / 64 + 224 ∧ 32 ≤ n ∧ n < 1024 ∧ ¬(864 ≤ n ∧ n < 896) ∨
        l.following = 3 ∧ b.toNat = n / 64 + 240 ∧ 16 ≤ n ∧ n < 272) := by
  have byte : UInt8.ofNat b.toNat = b := UInt8.ofNat_toNat
  rw [← byte, lead?_ofNat b.toNat_lt] at h
  rw [UInt8.le_iff_toNat_le] at hl hh
  repeat' split at h
  all_goals cases h
  all_goals
    simp only [UInt8.reduceToNat, true_and] at hl hh begun ⊢
    omega

theorem utf8EncodeChar_ofNat {n : Nat} (valid : n < 55296 ∨ 57343 < n ∧ n < 1114112) :
    String.utf8EncodeChar (Char.ofNat n) =
      if n ≤ 127 then [UInt8.ofNat n]
      else if n ≤ 2047 then UInt8.ofNat (n / 64 % 32 + 192) :: continuation 1 n
      else if n ≤ 65535 then UInt8.ofNat (n / 4096 % 16 + 224) :: continuation 2 n
      else UInt8.ofNat (n / 262144 % 8 + 240) :: continuation 3 n := by
  have value : (Char.ofNat n).val.toNat = n := by
    rw [Char.ofNat, dif_pos valid]
    rfl
  unfold String.utf8EncodeChar
  rw [value]
  simp [continuation]

theorem lead?_following_ne_zero (h : lead? b = some l) : l.following ≠ 0 := by
  unfold lead? at h
  repeat' split at h
  all_goals cases h
  all_goals exact Nat.succ_ne_zero _

/-- **What is read as a character is its bytes.** -/
theorem step_eq_some (h : step b rest = (some c, rest')) : b :: rest = String.utf8EncodeChar c ++ rest' := by
  unfold step at h
  split at h
  · rename_i single
    cases h
    have small : b.toNat < 128 := single
    rw [utf8EncodeChar_ofNat (by omega), if_pos (by omega), UInt8.ofNat_toNat]
    rfl
  split at h
  · cases h
  · rename_i l lead
    obtain ⟨following, several⟩ := Nat.exists_eq_succ_of_ne_zero (lead?_following_ne_zero lead)
    rw [several] at h
    obtain ⟨x, rest, rfl, hl, hh, finished⟩ := finish_succ_eq_some h
    obtain ⟨n, rfl, upper, rfl⟩ := finish_eq_some finished
    obtain ⟨low, high, length⟩ := lead?_eq_some lead hl hh upper
    have byte (m : Nat) (hm : b.toNat = m) : b = UInt8.ofNat m := by rw [← hm, UInt8.ofNat_toNat]
    rw [← List.cons_append, ← List.cons_append, ← continuation_succ low high upper]
    congr 1
    -- the number is in the range of the characters with as many bytes, so its upper digits are those of the lead byte
    obtain ⟨two, first, range⟩ | ⟨three, first, range⟩ | ⟨four, first, range⟩ := length
    · obtain rfl : following = 0 := by omega
      rw [Nat.pow_zero, Nat.div_one] at first range
      rw [utf8EncodeChar_ofNat (by omega), if_neg (by omega), if_pos (by omega), byte (n / 64 % 32 + 192) (by omega)]
    · obtain rfl : following = 1 := by omega
      rw [Nat.pow_one] at first range
      rw [utf8EncodeChar_ofNat (by omega), if_neg (by omega), if_neg (by omega), if_pos (by omega),
        byte (n / 4096 % 16 + 224) (by omega)]
    · obtain rfl : following = 2 := by omega
      rw [utf8EncodeChar_ofNat (by omega), if_neg (by omega), if_neg (by omega), if_neg (by omega),
        byte (n / 262144 % 8 + 240) (by omega)]

end Reading

section Whole

variable {bytes : Bytes}

/-- A text in front of other bytes is read by itself. -/
theorem scan_flatMap_append (chars : List Char) (rest : Bytes) :
    scan (chars.flatMap String.utf8EncodeChar ++ rest) = chars.map some ++ scan rest := by
  induction chars with
  | nil => rfl
  | cons c chars ih =>
    obtain ⟨first, more, he, hs⟩ := step_encode c (chars.flatMap String.utf8EncodeChar ++ rest)
    rw [List.flatMap_cons, he, List.cons_append, List.cons_append, List.append_assoc, scan, hs, ih]
    rfl

theorem scan_encode (text : String) : scan (encode text) = text.toList.map some := by
  have read := scan_flatMap_append text.toList []
  rwa [List.append_nil, scan, List.append_nil] at read

/-- Bytes without a fault are those of the characters that are read. -/
theorem eq_flatMap_of_scan {chars : List Char} (h : scan bytes = chars.map some) :
    bytes = chars.flatMap String.utf8EncodeChar := by
  fun_induction scan bytes generalizing chars with
  | case1 =>
    obtain rfl := List.map_eq_nil_iff.1 h.symm
    rfl
  | case2 b rest ih =>
    obtain ⟨c, more, rfl, hc, hm⟩ := List.map_eq_cons_iff.1 h.symm
    rw [List.flatMap_cons, ← ih hm.symm]
    exact step_eq_some (Prod.ext hc.symm rfl)

/-- The characters of a scan are all there unless there is a fault. -/
theorem mapM_id_cases (scanned : List (Option Char)) :
    none ∈ scanned ∧ scanned.mapM id = none ∨ ∃ chars, scanned = chars.map some ∧ scanned.mapM id = some chars := by
  induction scanned with
  | nil => exact .inr ⟨[], rfl, rfl⟩
  | cons first more ih =>
    cases first with
    | none => exact .inl ⟨List.mem_cons_self, rfl⟩
    | some c =>
      obtain ⟨fault, none⟩ | ⟨chars, rfl, all⟩ := ih
      · exact .inl ⟨List.mem_cons_of_mem _ fault, by rw [List.mapM_cons, none]; rfl⟩
      · exact .inr ⟨c :: chars, rfl, by rw [List.mapM_cons, all]; rfl⟩

theorem decode?_eq_none_iff : decode? bytes = none ↔ none ∈ scan bytes := by
  obtain ⟨fault, read⟩ | ⟨chars, scanned, read⟩ := mapM_id_cases (scan bytes)
  · simp only [decode?, fault, read, Option.map_none]
  · rw [decode?, read, scanned]
    simp

/-- **The bytes of a text are read as that text, and no others are.** -/
theorem decode?_eq_some_iff {text : String} : decode? bytes = some text ↔ bytes = encode text := by
  constructor
  · intro h
    obtain ⟨chars, read, rfl⟩ := Option.map_eq_some_iff.1 h
    obtain ⟨-, none⟩ | ⟨chars', scanned, all⟩ := mapM_id_cases (scan bytes)
    · rw [none] at read
      cases read
    · obtain rfl := Option.some.inj (all.symm.trans read)
      rw [encode, String.toList_ofList]
      exact eq_flatMap_of_scan scanned
  · rintro rfl
    have scanned := scan_encode text
    obtain ⟨fault, -⟩ | ⟨chars, scanned', all⟩ := mapM_id_cases (scan (encode text))
    · simp [scanned] at fault
    · obtain rfl := (List.map_inj_right fun _ _ => Option.some.inj).1 (scanned'.symm.trans scanned)
      rw [decode?, all, Option.map_some, String.ofList_toList]

theorem decode?_encode (text : String) : decode? (encode text) = some text := decode?_eq_some_iff.2 rfl

theorem ne_encode_of_malformed (h : decode? bytes = none) (text : String) : bytes ≠ encode text := by
  rintro rfl
  rw [decode?_encode] at h
  cases h

theorem map_getD_map_some (chars : List Char) : (chars.map some).map (·.getD '\uFFFD') = chars := by
  rw [List.map_map]
  exact List.map_id chars

theorem decodeLossy_encode (text : String) : decodeLossy (encode text) = text := by
  rw [decodeLossy, scan_encode, map_getD_map_some, String.ofList_toList]

/-- **Malformed bytes show it**, and every text that shows it is made of some. -/
theorem exists_malformed_iff {text : String} :
    (∃ bytes, decode? bytes = none ∧ decodeLossy bytes = text) ↔ '\uFFFD' ∈ text.toList := by
  constructor
  · rintro ⟨bytes, malformed, rfl⟩
    rw [decodeLossy, String.toList_ofList]
    exact List.mem_map.2 ⟨none, decode?_eq_none_iff.1 malformed, rfl⟩
  · intro shown
    obtain ⟨front, back, split⟩ := List.append_of_mem shown
    -- the byte 0xFF begins no character
    have scanned : scan (front.flatMap String.utf8EncodeChar ++ 0xFF :: encode (String.ofList back)) =
        front.map some ++ none :: back.map some := by
      rw [scan_flatMap_append, scan, ← @String.toList_ofList back, ← scan_encode, String.toList_ofList]
      rfl
    refine ⟨_, decode?_eq_none_iff.2 (scanned ▸ List.mem_append_right _ List.mem_cons_self), ?_⟩
    rw [decodeLossy, scanned, List.map_append, List.map_cons, map_getD_map_some, map_getD_map_some, Option.getD_none,
      ← split, String.ofList_toList]

end Whole

end MockCluster.Utf8
