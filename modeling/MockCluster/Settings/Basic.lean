import MockCluster.Cluster.Topology
import MockCluster.Kv.Builtin

/-!
# Settings

What a deployment is made from. Every setting has a default, except the host of an alternate address and the name of a
bucket; the defaults describe three nodes and one bucket.
-/

namespace MockCluster

/-- Where the servers of all nodes listen. -/
structure ListenerSettings where
  /-- The address to listen on, as written. -/
  bind : String
  /-- The port of the first node for documents; others follow. Any free ports if not given. -/
  kvPortBase : Option Nat
  /-- The port of the first node for administration; others follow. Any free ports if not given. -/
  httpPortBase : Option Nat
  deriving DecidableEq, Repr, Inhabited

/-- An address of a node on a named network. -/
structure AlternateSettings where
  hostname : String
  /-- Ports by the names of services. -/
  ports : NameMap Nat
  deriving DecidableEq, Repr, Inhabited

/-- One node. -/
structure NodeSettings where
  hostname : String
  /-- The services as written. -/
  services : List Service
  /-- The name of the network that the node advertises. -/
  network : String
  /-- Addresses by the names of networks. -/
  alternates : NameMap AlternateSettings
  deriving DecidableEq, Repr, Inhabited

/-- One bucket. -/
structure BucketSettings where
  name : String
  replicas : Nat
  vbuckets : Nat
  /-- What the bucket announces, each once; everything if not given. -/
  capabilities : Option (List BucketCapability)
  deriving DecidableEq, Repr, Inhabited

/-- All settings. -/
structure Settings where
  listeners : ListenerSettings
  /-- How long an HTTP server that is closed waits for open requests, in milliseconds. -/
  shutdownGrace : Nat
  /-- The login that is accepted. -/
  auth : Credentials
  /-- How much is logged. -/
  logLevel : String
  /-- The nodes in the order of their numbers. -/
  nodes : List NodeSettings
  /-- The buckets that exist from the start. -/
  buckets : List BucketSettings
  deriving DecidableEq, Repr, Inhabited

/-- The default listeners. -/
def ListenerSettings.standard : ListenerSettings := ⟨"127.0.0.1", none, none⟩

/-- The default node. -/
def NodeSettings.standard : NodeSettings := ⟨"127.0.0.1", [.kv, .mgmt], "default", .empty⟩

namespace BucketSettings

/-- A bucket with defaults for everything but its name. -/
def standard (name : String) : BucketSettings := ⟨name, 1, 64, none⟩

/-- What the bucket is created from. -/
def spec (b : BucketSettings) : BucketSpec := ⟨b.name, b.replicas, b.vbuckets, b.capabilities⟩

end BucketSettings

namespace Settings

/-- The settings when nothing is said. -/
def standard : Settings where
  listeners := .standard
  shutdownGrace := 1000
  auth := .standard
  logLevel := "info"
  nodes := List.replicate 3 .standard
  buckets := [.standard "default"]

end Settings

/-- Settings that replace those of a file. -/
structure SettingsOverrides where
  logLevel : Option String
  bind : Option String
  kvPortBase : Option Nat
  httpPortBase : Option Nat
  deriving DecidableEq, Repr, Inhabited

/-- The settings after replacements. -/
def Settings.override (s : Settings) (o : SettingsOverrides) : Settings :=
  { s with
    logLevel := o.logLevel.getD s.logLevel
    listeners :=
      { bind := o.bind.getD s.listeners.bind
        kvPortBase := o.kvPortBase.or s.listeners.kvPortBase
        httpPortBase := o.httpPortBase.or s.listeners.httpPortBase } }

end MockCluster
