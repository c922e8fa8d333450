/-!
# Connection features

What a client and a server can agree on when a connection opens.
-/

namespace MockCluster

/-- A feature that both ends of a connection may agree on. -/
inductive Feature where
  | datatype
  | tls
  | tcpNoDelay
  | mutationSeqno
  | tcpDelay
  | xattr
  | xerror
  | selectBucket
  | snappy
  | json
  | duplex
  | clustermapChangeNotification
  | unorderedExecution
  | tracing
  | altRequests
  | syncReplication
  | collections
  deriving DecidableEq, Repr, Inhabited

namespace Feature

/-- Every feature, in ascending order of codes. -/
def all : List Feature :=
  [.datatype, .tls, .tcpNoDelay, .mutationSeqno, .tcpDelay, .xattr, .xerror, .selectBucket, .snappy, .json,
  .duplex, .clustermapChangeNotification, .unorderedExecution, .tracing, .altRequests, .syncReplication,
  .collections]

/-- The number on the wire. -/
def code : Feature → UInt16
  | datatype => 0x01
  | tls => 0x02
  | tcpNoDelay => 0x03
  | mutationSeqno => 0x04
  | tcpDelay => 0x05
  | xattr => 0x06
  | xerror => 0x07
  | selectBucket => 0x08
  | snappy => 0x0a
  | json => 0x0b
  | duplex => 0x0c
  | clustermapChangeNotification => 0x0d
  | unorderedExecution => 0x0e
  | tracing => 0x0f
  | altRequests => 0x10
  | syncReplication => 0x11
  | collections => 0x12

/-- The feature that a number stands for. -/
def ofCode? (n : UInt16) : Option Feature := all.find? (·.code = n)

theorem mem_all (x : Feature) : x ∈ all := by cases x <;> decide

@[simp] theorem ofCode?_code (x : Feature) : ofCode? x.code = some x := by cases x <;> rfl

theorem code_injective {x y : Feature} (h : x.code = y.code) : x = y := by
  have := congrArg ofCode? h
  simpa using this

end Feature

end MockCluster
