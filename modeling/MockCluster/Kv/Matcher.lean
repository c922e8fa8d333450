import MockCluster.Binary.CollectionId
import MockCluster.Binary.Packet
import MockCluster.Fault

/-!
# Matching packets

A matcher names the packets that an expectation is for. It is built from a `Draft`, in which criteria are set one after
another; direction and operation must be among them.
-/

namespace MockCluster.Kv

/-- The packets that an expectation is for. A criterion that is not given holds of every packet. -/
structure Matcher where
  magic : Magic
  command : Command
  key : Option Bytes
  vbucket : Option UInt16
  datatype : Option UInt8
  /-- The bytes that the key begins with. -/
  keyStart : Option Bytes
  deriving DecidableEq, Repr

/-- Whether a packet meets every criterion. -/
def Matcher.matches (m : Matcher) (p : Packet) : Bool :=
  p.magic = m.magic && p.command = m.command
    && m.key.all (· = p.key)
    && m.vbucket.all (· = p.vbucket)
    && m.datatype.all (· = p.datatype)
    && m.keyStart.all (·.isPrefixOf p.key)

/-- An expectation that is being described. -/
structure Draft where
  magic : Option Magic
  command : Option Command
  key : Option Bytes
  vbucket : Option UInt16
  datatype : Option UInt8
  keyStart : Option Bytes
  /-- How often the expectation may fire. -/
  limit : Option Nat
  deriving DecidableEq, Repr, Inhabited

namespace Draft

/-- Nothing said yet. -/
def empty : Draft := ⟨none, none, none, none, none, none, none⟩

/-- For keys in a collection only; this replaces any other beginning of the key. -/
def collection (d : Draft) (id : UInt32) : Draft :=
  { d with keyStart := some (CollectionId.encode id.toNat) }

/-- For keys that begin with the given bytes only; this replaces any other beginning of the key. -/
def startingWith (d : Draft) (bytes : Bytes) : Draft := { d with keyStart := some bytes }

/-- Fires a number of times; this replaces any other limit. -/
def times (d : Draft) (n : Nat) : Draft := { d with limit := some n }

/-- Fires once. -/
def once (d : Draft) : Draft := d.times 1

/-- The matcher that was described, if direction and operation are known. -/
def matcher (d : Draft) : Except Fault Matcher :=
  match d.magic, d.command with
  | some magic, some command =>
    .ok ⟨magic, command, d.key, d.vbucket, d.datatype, d.keyStart⟩
  | _, _ => .error (.incompleteExpectation "magic and cmd are required")

end Draft

end MockCluster.Kv
