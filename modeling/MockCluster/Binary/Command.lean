/-!
# Commands

The operations of the binary protocol that have a name here. A frame with any other opcode can still be cut out of a
stream, but it is not taken apart.
-/

namespace MockCluster

/-- An operation of the binary protocol. -/
inductive Command where
  /-- Reads a document. -/
  | get
  /-- Writes a document. -/
  | set
  /-- Writes a document that must not exist. -/
  | add
  /-- Writes a document that must exist. -/
  | replace
  /-- Removes a document. -/
  | delete
  /-- Adds to a counter. -/
  | increment
  /-- Subtracts from a counter. -/
  | decrement
  /-- Does nothing. -/
  | noop
  /-- Adds bytes after a value. -/
  | append
  /-- Adds bytes before a value. -/
  | prepend
  /-- Reads statistics. -/
  | stat
  /-- Sets an expiry time. -/
  | touch
  /-- Reads a document and sets its expiry time. -/
  | getAndTouch
  /-- Agrees on features. -/
  | hello
  /-- Lists the ways to authenticate. -/
  | saslListMechs
  /-- Authenticates. -/
  | saslAuth
  /-- Goes on authenticating. -/
  | saslStep
  /-- Reads a document from a replica. -/
  | getReplica
  /-- Chooses the bucket of the connection. -/
  | selectBucket
  /-- Asks how far a vbucket is persisted. -/
  | observeSeqNo
  /-- Asks how far a document is persisted. -/
  | observe
  /-- Reads and locks a document. -/
  | getLocked
  /-- Unlocks a document. -/
  | unlock
  /-- Reads the metadata of a document. -/
  | getMeta
  /-- Reads the cluster configuration. -/
  | getClusterConfig
  /-- Reads any document. -/
  | getRandom
  /-- Reads the list of collections. -/
  | collectionsGetManifest
  /-- Looks up the id of a collection. -/
  | collectionsGetId
  /-- Reads parts of a document. -/
  | subDocMultiLookup
  /-- Changes parts of a document. -/
  | subDocMultiMutation
  /-- Reads the table of errors. -/
  | getErrorMap
  deriving DecidableEq, Repr, Inhabited

namespace Command

/-- Every command, in ascending order of codes. -/
def all : List Command :=
  [.get, .set, .add, .replace, .delete, .increment, .decrement, .noop, .append, .prepend, .stat, .touch,
  .getAndTouch, .hello, .saslListMechs, .saslAuth, .saslStep, .getReplica, .selectBucket, .observeSeqNo,
  .observe, .getLocked, .unlock, .getMeta, .getClusterConfig, .getRandom, .collectionsGetManifest,
  .collectionsGetId, .subDocMultiLookup, .subDocMultiMutation, .getErrorMap]

/-- The opcode on the wire. -/
def code : Command → UInt8
  | get => 0x00
  | set => 0x01
  | add => 0x02
  | replace => 0x03
  | delete => 0x04
  | increment => 0x05
  | decrement => 0x06
  | noop => 0x0a
  | append => 0x0e
  | prepend => 0x0f
  | stat => 0x10
  | touch => 0x1c
  | getAndTouch => 0x1d
  | hello => 0x1f
  | saslListMechs => 0x20
  | saslAuth => 0x21
  | saslStep => 0x22
  | getReplica => 0x83
  | selectBucket => 0x89
  | observeSeqNo => 0x91
  | observe => 0x92
  | getLocked => 0x94
  | unlock => 0x95
  | getMeta => 0xa0
  | getClusterConfig => 0xb5
  | getRandom => 0xb6
  | collectionsGetManifest => 0xba
  | collectionsGetId => 0xbb
  | subDocMultiLookup => 0xd0
  | subDocMultiMutation => 0xd1
  | getErrorMap => 0xfe

/-- The command that a number stands for. -/
def ofCode? (n : UInt8) : Option Command := all.find? (·.code = n)

/-- The name that is shown to readers. -/
def name : Command → String
  | get => "GET"
  | set => "SET"
  | add => "ADD"
  | replace => "REPLACE"
  | delete => "DELETE"
  | increment => "INCREMENT"
  | decrement => "DECREMENT"
  | noop => "NOOP"
  | append => "APPEND"
  | prepend => "PREPEND"
  | stat => "STAT"
  | touch => "TOUCH"
  | getAndTouch => "GAT"
  | hello => "HELLO"
  | saslListMechs => "SASL_LIST_MECHS"
  | saslAuth => "SASL_AUTH"
  | saslStep => "SASL_STEP"
  | getReplica => "GET_REPLICA"
  | selectBucket => "SELECT_BUCKET"
  | observeSeqNo => "OBSERVE_SEQNO"
  | observe => "OBSERVE"
  | getLocked => "GET_LOCKED"
  | unlock => "UNLOCK"
  | getMeta => "GET_META"
  | getClusterConfig => "GET_CLUSTER_CONFIG"
  | getRandom => "GET_RANDOM"
  | collectionsGetManifest => "COLLECTIONS_GET_MANIFEST"
  | collectionsGetId => "COLLECTIONS_GET_ID"
  | subDocMultiLookup => "SUBDOC_MULTI_LOOKUP"
  | subDocMultiMutation => "SUBDOC_MULTI_MUTATION"
  | getErrorMap => "GET_ERROR_MAP"

/-- The command of a shown name. -/
def ofName? (name : String) : Option Command := all.find? (·.name = name)

theorem mem_all (x : Command) : x ∈ all := by cases x <;> decide

@[simp] theorem ofCode?_code (x : Command) : ofCode? x.code = some x := by cases x <;> rfl

theorem code_injective {x y : Command} (h : x.code = y.code) : x = y := by
  have := congrArg ofCode? h
  simpa using this

end Command

end MockCluster
