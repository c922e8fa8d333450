import Mathlib.Data.Nat.Digits.Defs
import MockCluster.Kv.Matcher

/-!
# Keys in a collection

An expectation for a collection looks at nothing but how a key begins. The numbers of collections are written with one
to five bytes, so an expectation could take a key of another collection for one of its own, if the bytes of its number
were the beginning of those of the other number. That never happens. The top bit of a byte says whether the number goes
on, so a number ends where its own bytes say, whatever stands behind it (`decode?_eq_some_iff`).

| numbers | bytes |
| --- | ---: |
| below 2^7 | 1 |
| below 2^14 | 2 |
| below 2^21 | 3 |
| below 2^28 | 4 |
| below 2^32 | 5 |
-/

namespace MockCluster

namespace CollectionId

/-- The form of a number at the front of a key: its digits in base 128, least significant first, with the top bit set in
all bytes but the last. -/
structure Writes (bytes : Bytes) (id : Nat) : Prop where
  ends : ∃ front last, bytes = front ++ [last] ∧ (∀ b ∈ front, 128 ≤ b) ∧ last < 128
  digits : Nat.ofDigits 128 (bytes.map (·.toNat % 128)) = id

variable {b : UInt8} {bytes key rest : Bytes} {id : Nat}

theorem toNat_of_lt (h : b < 128) : b.toNat < 128 := UInt8.lt_iff_toNat_lt.1 h

theorem le_toNat_of_not_lt (h : ¬b < 128) : 128 ≤ b.toNat := Nat.le_of_not_lt fun less => h (UInt8.lt_iff_toNat_lt.2 less)

theorem Writes.ne_nil (h : Writes bytes id) : bytes ≠ [] := by
  obtain ⟨front, last, rfl, -⟩ := h.ends
  simp

/-- Without the top bit, a byte is the whole number. -/
theorem writes_cons_iff_of_lt (h : b < 128) : Writes (b :: bytes) id ↔ bytes = [] ∧ b.toNat = id := by
  have value : b.toNat % 128 = b.toNat := Nat.mod_eq_of_lt (toNat_of_lt h)
  constructor
  · rintro ⟨⟨front, last, same, marked, -⟩, digits⟩
    cases front with
    | nil =>
      obtain ⟨rfl, rfl⟩ := List.cons.inj same
      exact ⟨rfl, by simpa [value] using digits⟩
    | cons first front =>
      obtain ⟨rfl, -⟩ := List.cons.inj same
      exact absurd h (UInt8.not_lt.2 (marked b List.mem_cons_self))
  · rintro ⟨rfl, rfl⟩
    exact ⟨⟨[], b, rfl, by simp, h⟩, by simp [value]⟩

/-- With the top bit, the other bits are the lowest digit, and the number goes on. -/
theorem writes_cons_iff_of_not_lt (h : ¬b < 128) :
    Writes (b :: bytes) id ↔ ∃ high, Writes bytes high ∧ b.toNat - 128 + 128 * high = id := by
  have value : b.toNat % 128 = b.toNat - 128 := by
    have := le_toNat_of_not_lt h
    have := b.toNat_lt
    omega
  constructor
  · rintro ⟨⟨front, last, same, marked, ends⟩, digits⟩
    rw [List.map_cons, Nat.ofDigits_cons, value] at digits
    cases front with
    | nil =>
      obtain ⟨rfl, -⟩ := List.cons.inj same
      exact absurd ends h
    | cons first front =>
      obtain ⟨rfl, rfl⟩ := List.cons.inj same
      exact ⟨_, ⟨⟨front, last, rfl, fun c hc => marked c (.tail _ hc), ends⟩, rfl⟩, digits⟩
  · rintro ⟨high, ⟨⟨front, last, rfl, marked, ends⟩, rfl⟩, rfl⟩
    refine ⟨⟨b :: front, last, rfl, List.forall_mem_cons.2 ⟨UInt8.not_lt.1 h, marked⟩, ends⟩, ?_⟩
    rw [List.map_cons, Nat.ofDigits_cons, value]

/-- **Reading finds the number that the key begins with.** -/
theorem decode?_eq_some_iff : decode? key = some (id, rest) ↔ ∃ bytes, key = bytes ++ rest ∧ Writes bytes id := by
  induction key generalizing id with
  | nil =>
    simp only [decode?, reduceCtorEq, false_iff, not_exists, not_and]
    intro bytes none writes
    exact writes.ne_nil (List.append_eq_nil_iff.1 none.symm).1
  | cons b key ih =>
    -- without the top bit the number ends here; with it, the rest of the key begins with the higher digits
    by_cases h : b < 128
    · simp only [decode?, h, if_true, Option.some.injEq, Prod.mk.injEq]
      constructor
      · rintro ⟨rfl, rfl⟩
        exact ⟨[b], rfl, (writes_cons_iff_of_lt h).2 ⟨rfl, rfl⟩⟩
      · rintro ⟨bytes, same, writes⟩
        obtain ⟨first, bytes, rfl⟩ := List.exists_cons_of_ne_nil writes.ne_nil
        obtain ⟨rfl, rfl⟩ := List.cons.inj same
        obtain ⟨rfl, rfl⟩ := (writes_cons_iff_of_lt h).1 writes
        exact ⟨rfl, rfl⟩
    · simp only [decode?, h, if_false]
      constructor
      · intro read
        obtain ⟨⟨high, _⟩, found, rfl, rfl⟩ := Option.map_eq_some_iff.1 read
        obtain ⟨bytes, rfl, writes⟩ := ih.1 found
        exact ⟨b :: bytes, rfl, (writes_cons_iff_of_not_lt h).2 ⟨high, writes, rfl⟩⟩
      · rintro ⟨bytes, same, writes⟩
        obtain ⟨first, bytes, rfl⟩ := List.exists_cons_of_ne_nil writes.ne_nil
        obtain ⟨rfl, rfl⟩ := List.cons.inj same
        obtain ⟨high, more, rfl⟩ := (writes_cons_iff_of_not_lt h).1 writes
        rw [ih.2 ⟨bytes, rfl, more⟩]
        rfl

theorem writes_encode (id : Nat) : Writes (encode id) id := by
  have read := decode?_encode id []
  obtain ⟨bytes, same, writes⟩ := decode?_eq_some_iff.1 read
  rw [List.append_nil, List.append_nil] at same
  exact same ▸ writes

/-- What begins with a number begins with no other one. -/
theorem encode_prefix_append_iff {a b : Nat} {suffix : Bytes} : encode a <+: encode b ++ suffix ↔ a = b := by
  constructor
  · rintro ⟨rest, same⟩
    have read := decode?_encode a rest
    rw [same, decode?_encode] at read
    exact (congrArg Prod.fst (Option.some.inj read)).symm
  · rintro rfl
    exact List.prefix_append _ _

/-- The number of bytes is the number of digits in base 128. -/
theorem length_encode_le_iff {width : Nat} : (encode id).length ≤ width + 1 ↔ id < 128 ^ (width + 1) := by
  induction width generalizing id with
  | zero =>
    rw [encode]
    split
    · rename_i small
      simpa using small
    · rename_i big
      have more : 0 < (encode (id / 128)).length := List.length_pos_iff.2 (writes_encode _).ne_nil
      simp only [List.length_cons, Nat.zero_add, Nat.pow_one]
      omega
  | succ width ih =>
    rw [encode]
    split
    · rename_i small
      have least : 128 ^ 1 ≤ 128 ^ (width + 1 + 1) := Nat.pow_le_pow_right (by decide) (by omega)
      simp only [List.length_singleton]
      omega
    · rw [List.length_cons, Nat.add_le_add_iff_right, ih, Nat.div_lt_iff_lt_mul (by decide), ← Nat.pow_succ]

/-- **The bytes of a 32-bit number, with masks and shifts.** The shifts come to an end, since what is left gets smaller
until it is zero. -/
theorem encode_toNat (id : UInt32) : encode id.toNat =
    if id >>> 7 = 0 then [(id &&& 0x7f).toUInt8] else ((id &&& 0x7f).toUInt8 ||| 0x80) :: encode (id >>> 7).toNat := by
  have low : (id &&& 0x7f).toUInt8.toNat = id.toNat % 128 := by
    rw [UInt32.toNat_toUInt8, UInt32.toNat_and]
    have mask : id.toNat &&& (0x7f : UInt32).toNat = id.toNat % 2 ^ 7 := Nat.and_two_pow_sub_one_eq_mod id.toNat 7
    omega
  have high : (id >>> 7).toNat = id.toNat / 128 := by
    rw [UInt32.toNat_shiftRight]
    exact Nat.shiftRight_eq_div_pow id.toNat 7
  have whole : id >>> 7 = 0 ↔ id.toNat < 128 := by
    rw [← UInt32.toNat_inj, high]
    have : (0 : UInt32).toNat = 0 := rfl
    omega
  have marked : ((id &&& 0x7f).toUInt8 ||| 0x80).toNat = id.toNat % 128 + 128 := by
    have bit : (0x80 : UInt8).toNat = 2 ^ 7 * 1 := rfl
    rw [UInt8.toNat_or, low, bit, Nat.or_comm, ← Nat.two_pow_add_eq_or_of_lt (Nat.mod_lt _ (by decide)), Nat.add_comm]
  rw [encode]
  by_cases h : id.toNat < 128
  · rw [if_pos h, if_pos (whole.2 h)]
    congr 1
    rw [← UInt8.toNat_inj, low, UInt8.toNat_ofNat']
    omega
  · rw [if_neg h, if_neg (mt whole.1 h), high]
    congr 1
    rw [← UInt8.toNat_inj, marked, UInt8.toNat_ofNat']
    omega

end CollectionId

namespace Kv

open CollectionId

/-- **An expectation for a collection is for the keys of that collection.** If a key begins with the number of some
collection, then, apart from the other criteria, it matters only whether that is the collection of the expectation. Its
number has an end, at most five bytes, can be read again, and does not begin with another number. The bytes are those
that are got by masks and shifts of 32-bit numbers, the lowest seven bits first. -/
theorem Draft.collection_matches_iff {d : Draft} {m : Matcher} {p : Packet} {a b : UInt32} {suffix : Bytes}
    (described : (d.collection a).matcher = .ok m) (key : p.key = encode b.toNat ++ suffix) :
    (m.matches p = true ↔ ({ m with keyStart := none } : Matcher).matches p = true ∧ a = b) ∧
      Writes (encode b.toNat) b.toNat ∧ (encode b.toNat).length ≤ 5 ∧
      decode? p.key = some (b.toNat, suffix) ∧ (encode a.toNat <+: encode b.toNat ↔ a = b) ∧
      ∀ id : UInt32, encode id.toNat =
        if id >>> 7 = 0 then [(id &&& 0x7f).toUInt8]
        else ((id &&& 0x7f).toUInt8 ||| 0x80) :: encode (id >>> 7).toNat := by
  have start : m.keyStart = some (encode a.toNat) := by
    simp only [matcher, collection] at described
    split at described
    · cases described
      rfl
    · cases described
  have begins : m.keyStart.all (·.isPrefixOf p.key) = true ↔ a = b := by
    rw [start, key, Option.all_some, List.isPrefixOf_iff_prefix, encode_prefix_append_iff, UInt32.toNat_inj]
  have bound : b.toNat < 128 ^ (4 + 1) := Nat.lt_trans b.toNat_lt (by decide)
  have alone : encode a.toNat <+: encode b.toNat ↔ a = b := by
    rw [← List.append_nil (encode b.toNat), encode_prefix_append_iff, UInt32.toNat_inj]
  refine ⟨?_, writes_encode _, length_encode_le_iff.2 bound, key ▸ decode?_encode _ _, alone, encode_toNat⟩
  rw [Matcher.matches, Bool.and_eq_true, begins]
  simp [Matcher.matches]

/-- Numbers with the same lowest digit: the key is in collection 133, whose number is written as 133 and 1, so an
expectation for that collection matches, and one for collection 5 does not. -/
theorem Draft.collection_matches_iff_same_digit :
    let d : Draft := { Draft.empty with magic := some .req, command := some .get }
    let p : Packet := { Packet.request .get with key := [133, 1, 107] }
    (∃ m, (d.collection 133).matcher = .ok m ∧ m.matches p = true) ∧
      ∃ m, (d.collection 5).matcher = .ok m ∧ m.matches p = false := by
  intro d p
  have key : p.key = encode (133 : UInt32).toNat ++ [107] := by simp [p, encode]
  have own := Draft.collection_matches_iff (d := d) (a := 133) rfl key
  have other := Draft.collection_matches_iff (d := d) (a := 5) rfl key
  refine ⟨⟨_, rfl, own.1.2 ⟨rfl, rfl⟩⟩, _, rfl, ?_⟩
  rw [← Bool.not_eq_true, other.1]
  exact fun both => absurd both.2 (by decide)

end Kv

end MockCluster
