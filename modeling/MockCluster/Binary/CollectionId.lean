import MockCluster.Bytes

/-!
# Collection ids

A key in a collection begins with the number of the collection, seven bits in each byte, least significant first. All
bytes but the last have their top bit set.
-/

namespace MockCluster.CollectionId

/-- The bytes of a collection's number. -/
def encode (id : Nat) : Bytes :=
  if id < 128 then [UInt8.ofNat id] else UInt8.ofNat (id % 128 + 128) :: encode (id / 128)

/-- The number at the front of a key, and the rest of the key. -/
def decode? : Bytes → Option (Nat × Bytes)
  | [] => none
  | b :: rest =>
    if b < 128 then some (b.toNat, rest)
    else (decode? rest).map fun (high, key) => (b.toNat - 128 + 128 * high, key)

/-- Reading what was written gives the number back, whatever key follows. -/
theorem decode?_encode (id : Nat) (key : Bytes) : decode? (encode id ++ key) = some (id, key) := by
  induction id using encode.induct with
  | case1 id h =>
    rw [encode, if_pos h]
    have hb : UInt8.ofNat id < 128 := by
      rw [UInt8.lt_iff_toNat_lt, UInt8.toNat_ofNat']
      have : (128 : UInt8).toNat = 128 := rfl
      omega
    simp only [List.singleton_append, decode?, hb, if_true, UInt8.toNat_ofNat']
    rw [Nat.mod_eq_of_lt (by omega)]
  | case2 id h ih =>
    rw [encode, if_neg h]
    have hb : ¬UInt8.ofNat (id % 128 + 128) < 128 := by
      rw [UInt8.lt_iff_toNat_lt, UInt8.toNat_ofNat']
      have : (128 : UInt8).toNat = 128 := rfl
      omega
    simp only [List.cons_append, decode?, hb, if_false, ih, Option.map_some, UInt8.toNat_ofNat']
    congr 2
    omega

end MockCluster.CollectionId
