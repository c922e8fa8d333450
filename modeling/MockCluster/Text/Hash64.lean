import MockCluster.Bytes

/-!
# The 64-bit XX hash

`hash seed bytes` mixes stripes of 32 bytes into four lanes, folds the lanes into one word, mixes in the length and
the bytes left over (eight, four and one at a time), and scrambles the result.
-/

namespace MockCluster.Hash64

/-- The five multipliers of the hash. -/
def prime1 : UInt64 := 0x9E3779B185EBCA87
/-- The second multiplier. -/
def prime2 : UInt64 := 0xC2B2AE3D27D4EB4F
/-- The third multiplier. -/
def prime3 : UInt64 := 0x165667B19E3779F9
/-- The fourth multiplier. -/
def prime4 : UInt64 := 0x85EBCA77C2B2AE63
/-- The fifth multiplier. -/
def prime5 : UInt64 := 0x27D4EB2F165667C5

/-- Rotation to the left by `n` bits, `0 < n < 64`. -/
def rotl (x : UInt64) (n : UInt64) : UInt64 := (x <<< n) ||| (x >>> (64 - n))

/-- One lane takes in one word. -/
def round (lane word : UInt64) : UInt64 := rotl (lane + word * prime2) 31 * prime1

/-- The word in the first `n` bytes, least significant byte first. -/
def word (n : Nat) (bytes : Bytes) : UInt64 := UInt64.ofNat (Bytes.ofLittleEndian (bytes.take n))

/-- The four lanes. -/
structure Lanes where
  a : UInt64
  b : UInt64
  c : UInt64
  d : UInt64

/-- The lanes before the first stripe. -/
def Lanes.start (seed : UInt64) : Lanes :=
  ⟨seed + prime1 + prime2, seed + prime2, seed, seed - prime1⟩

/-- The lanes after one stripe of 32 bytes. -/
def Lanes.stripe (l : Lanes) (bytes : Bytes) : Lanes :=
  ⟨round l.a (word 8 bytes), round l.b (word 8 (bytes.drop 8)), round l.c (word 8 (bytes.drop 16)),
    round l.d (word 8 (bytes.drop 24))⟩

/-- The lanes after all whole stripes, and the bytes left over. -/
def Lanes.stripes (l : Lanes) (bytes : Bytes) : Lanes × Bytes :=
  if 32 ≤ bytes.length then (l.stripe bytes).stripes (bytes.drop 32) else (l, bytes)
termination_by bytes.length
decreasing_by simp only [List.length_drop]; omega

/-- The four lanes as one word. -/
def Lanes.fold (l : Lanes) : UInt64 :=
  [l.a, l.b, l.c, l.d].foldl (fun h lane => (h ^^^ round 0 lane) * prime1 + prime4)
    (rotl l.a 1 + rotl l.b 7 + rotl l.c 12 + rotl l.d 18)

/-- Mixes in the bytes after the last stripe. -/
def tail (h : UInt64) (bytes : Bytes) : UInt64 :=
  if 8 ≤ bytes.length then
    tail (rotl (h ^^^ round 0 (word 8 bytes)) 27 * prime1 + prime4) (bytes.drop 8)
  else if 4 ≤ bytes.length then
    tail (rotl (h ^^^ word 4 bytes * prime1) 23 * prime2 + prime3) (bytes.drop 4)
  else bytes.foldl (fun h b => rotl (h ^^^ b.toUInt64 * prime5) 11 * prime1) h
termination_by bytes.length
decreasing_by all_goals simp only [List.length_drop]; omega

/-- The final scrambling. -/
def avalanche (h : UInt64) : UInt64 :=
  let h := (h ^^^ (h >>> 33)) * prime2
  let h := (h ^^^ (h >>> 29)) * prime3
  h ^^^ (h >>> 32)

/-- The hash of a byte string under a seed. -/
def hash (seed : UInt64) (bytes : Bytes) : UInt64 :=
  let (lanes, rest) := (Lanes.start seed).stripes bytes
  let h := if 32 ≤ bytes.length then lanes.fold else seed + prime5
  avalanche (tail (h + UInt64.ofNat bytes.length) rest)

end MockCluster.Hash64
