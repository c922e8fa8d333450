import MockCluster.Cluster.Document
import MockCluster.Kv.Dispatch
import MockCluster.Text.Pieces

/-!
# Built-in services of the binary protocol

| operation | answer |
| --- | --- |
| HELLO | the supported ones among the requested features, in the order of the request |
| NOOP | nothing |
| SASL_LIST_MECHS | `PLAIN` |
| SASL_AUTH | success if user and password are right |
| SELECT_BUCKET | success if the bucket exists |
| GET_CLUSTER_CONFIG | the configuration of the selected bucket, or of the cluster |
-/

namespace MockCluster

/-- A user and a password. -/
structure Credentials where
  username : String
  password : String
  deriving DecidableEq, Repr, Inhabited

/-- The credentials unless told otherwise. -/
def Credentials.standard : Credentials := ⟨"Administrator", "password"⟩

namespace Kv

/-- A built-in service. -/
inductive Builtin where
  | hello
  | noop
  | saslListMechs
  | saslAuth (credentials : Credentials)
  | selectBucket
  | getClusterConfig
  deriving DecidableEq, Repr

namespace Builtin

/-- The features that are agreed to when asked for. -/
def supportedFeatures : List Feature :=
  [.datatype, .tcpNoDelay, .xattr, .xerror, .selectBucket, .json, .altRequests]

/-- The numbers of two bytes each that a value holds. -/
def codes : Bytes → List UInt16
  | a :: b :: rest => UInt16.ofNat (Bytes.ofBigEndian [a, b]) :: codes rest
  | _ => []

/-- The supported features in a request for features, each at its first place. -/
def agreedFeatures (value : Bytes) : List Feature :=
  (((codes value).filterMap Feature.ofCode?).filter (· ∈ supportedFeatures)).eraseDups

/-- The value that names features. -/
def featureValue (features : List Feature) : Bytes :=
  features.flatMap fun f => Bytes.bigEndian 2 f.code.toNat

/-- Whether a value authenticates: three or more parts between NUL bytes, of which the second is the user and the
third the password. -/
def authenticates (credentials : Credentials) (value : Bytes) : Bool :=
  match (pieces (· = 0) value).drop 1 with
  | user :: password :: _ =>
    user = Utf8.encode credentials.username && password = Utf8.encode credentials.password
  | _ => false

variable {H M : Type}

/-- Agrees on features. -/
def runHello (ex : Exchange H M) (p : Packet) : Outcome (Exchange H M) (Except Fault Unit) :=
  if p.value.length % 2 ≠ 0 then ex.answer { p.responseTo with status := .invalidArguments }
  else
    let agreed := agreedFeatures p.value
    Exchange.answer { ex with client := { ex.client with features := Feature.normalize agreed } }
      { p.responseTo with value := featureValue agreed }

/-- Authenticates. -/
def runSaslAuth (credentials : Credentials) (ex : Exchange H M) (p : Packet) :
    Outcome (Exchange H M) (Except Fault Unit) :=
  if p.key = Utf8.encode "PLAIN" ∧ authenticates credentials p.value then
    Exchange.answer { ex with client := { ex.client with user := some credentials.username } }
      { p.responseTo with value := Utf8.encode "Authenticated" }
  else ex.answer { p.responseTo with status := .authError }

/-- Selects a bucket. -/
def runSelectBucket (ex : Exchange H M) (p : Packet) : Outcome (Exchange H M) (Except Fault Unit) :=
  let name := Utf8.decodeLossy p.key
  match ex.shared.topology.bucket? name with
  | none => ex.answer { p.responseTo with status := .keyNotFound }
  | some _ => Exchange.answer { ex with client := { ex.client with bucket := some name } } p.responseTo

/-- The configuration that a connection is to be told. -/
def configFor (client : Client H) (topology : Topology) : Except Fault Bytes :=
  match client.bucket with
  | some bucket => topology.bucketConfig bucket client.node
  | none => topology.clusterConfig client.node

/-- The response that tells a connection the configuration. -/
def configResponse (client : Client H) (topology : Topology) (p : Packet) : Packet :=
  match configFor client topology with
  | .ok config =>
    { p.responseTo with
      value := config
      datatype := if .json ∈ client.features then Packet.jsonDatatype else 0 }
  | .error fault => { p.responseTo with status := fault.status }

/-- What a service does. None of them forwards a packet. -/
def run (b : Builtin) (ex : Exchange H M) (p : Packet) : Outcome (Exchange H M) (Except Fault Unit) :=
  match b with
  | hello => runHello ex p
  | noop => ex.answer p.responseTo
  | saslListMechs => ex.answer { p.responseTo with value := Utf8.encode "PLAIN" }
  | saslAuth credentials => runSaslAuth credentials ex p
  | selectBucket => runSelectBucket ex p
  | getClusterConfig => ex.answer (configResponse ex.client ex.shared.topology p)

/-- The operation that a service is for. -/
def command : Builtin → Command
  | hello => .hello
  | noop => .noop
  | saslListMechs => .saslListMechs
  | saslAuth _ => .saslAuth
  | selectBucket => .selectBucket
  | getClusterConfig => .getClusterConfig

/-- Every service, in the order of registration. -/
def all (credentials : Credentials) : List Builtin :=
  [hello, noop, saslListMechs, saslAuth credentials, selectBucket, getClusterConfig]

/-- The expectation of a service: it is for plain requests. -/
def rule (handler : Builtin → H) (b : Builtin) : Rule H :=
  ⟨⟨.req, b.command, none, none, none, none⟩, handler b⟩

/-- Registers every service. -/
def registerAll (credentials : Credentials) (handler : Builtin → H) (scope : Scope (Rule H)) : Scope (Rule H) :=
  (all credentials).foldl (fun scope b => (scope.register none (b.rule handler)).2) scope

end Builtin

end Kv

end MockCluster
