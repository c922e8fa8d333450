import MockCluster.Cluster.Document
import MockCluster.Http.Dispatch

/-!
# Built-in routes

| path | answer |
| --- | --- |
| `/pools` | what kind of server this is |
| `/pools/default/nodeServices` | the configuration of the cluster |
| `/pools/default/b/NAME` | the configuration of a bucket |
| `/pools/default/buckets/NAME` | the same |

All of them are for the method GET.
-/

namespace MockCluster.Http

/-- A built-in route. -/
inductive Builtin where
  | pools
  | nodeServices
  | bucket
  deriving DecidableEq, Repr

namespace Builtin

/-- The answer when there is no such bucket. -/
def notFoundBody : String := "Requested resource not found.\r\n"

/-- What kind of server this is. -/
def poolsDocument : Json :=
  .obj [
    ("isAdmin", .bool true),
    ("isEnterprise", .bool true),
    ("implementationVersion", .str "7.0.0-0000-enterprise"),
    ("pools", .arr [.obj [("name", .str "default"), ("uri", .str "/pools/default")]])]

/-- The response that shows a configuration. -/
def render : Except Fault Bytes → Response
  | .ok config => .json 200 config
  | .error (.bucketNotFound _) => .text 404 notFoundBody
  | .error fault => .text 500 fault.message

/-- What a route answers. -/
def answer (b : Builtin) (visit : Visit) (topology : Topology) : Option Response :=
  match b with
  | pools => some ((Response.create 200).withJson poolsDocument)
  | nodeServices => some (render (topology.clusterConfig visit.node))
  | bucket => (visit.captures.get? "bucket").map fun name => render (topology.bucketConfig name visit.node)

/-- Every route with its path, in the order of registration. -/
def all : List (Builtin × String) := [
  (pools, "/pools"),
  (nodeServices, "/pools/default/nodeServices"),
  (bucket, "/pools/default/b/\x7bbucket\x7d"),
  (bucket, "/pools/default/buckets/\x7bbucket\x7d")]

/-- Registers every route. -/
def registerAll {H : Type} (handler : Builtin → H) (scope : Scope (Rule H)) : Scope (Rule H) :=
  all.foldl (fun scope (b, path) => (scope.register none ⟨some "GET", .ofString path, handler b⟩).2) scope

end Builtin

end MockCluster.Http
