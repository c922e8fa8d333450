import MockCluster.Http.Script
import MockCluster.Proofs.Dispatch.Patterns
import MockCluster.Proofs.Message.Queries
import MockCluster.Proofs.Services.Served
import MockCluster.Proofs.Topology.BucketView

/-!
# Two protocols, one configuration

A client may ask for the configuration over a connection of the binary protocol or over HTTP. The two go different ways:
a connection has a node and perhaps a selected bucket, and a route takes the bucket from the path. Both end at the same
two functions of the topology, and both have an answer for each way in which these can fail.

| configuration | binary protocol | HTTP |
| --- | --- | --- |
| there is one | success, the configuration as the value | 200, the configuration as the body |
| the bucket is not there | no bucket | 404 |
| the node is not there, or the topology contradicts itself | internal error | 500 |

`config_agrees` says that a route and a connection answer from the same row. A name of a bucket gets into a path as it
is, so it must not be empty and must contain neither a slash nor a question mark.
-/

namespace MockCluster

namespace Http

open MockCluster.Script (Memory)

/-- A GET for a target, with any fields and any body that is accepted. -/
structure Request.Gets (r : Request) (target : String) : Prop where
  method : r.method = "GET"
  path : r.path = (Request.create "GET" target).path
  short : r.body.length ≤ maxBody

theorem gets_create (target : String) : (Request.create "GET" target).Gets target where
  method := by
    change "GET".toUpper = "GET"
    decide +kernel
  path := rfl
  short := Nat.zero_le _

namespace Builtin

/-- What is registered for a route. -/
def rule (b : Builtin) (path : String) : Rule Handler := ⟨some "GET", .ofString path, .builtin b⟩

/-- The routes that a request is for, with what they capture, the last registered one first. -/
def found (r : Request) : List (Builtin × NameMap String) :=
  all.reverse.filterMap fun (b, path) => ((b.rule path).match? r).map (b, ·)

end Builtin

/-- The built-in routes are registered and nothing else. Their handles and how often they fired do not matter. -/
structure World.OffersRoutes (w : World Handler Memory) : Prop where
  overrides : w.overrides.entries = []
  defaults : w.defaults.entries.map (fun e => (e.limit, e.content)) =
    Builtin.all.map fun (b, path) => (none, b.rule path)

theorem offersRoutes_registerAll (topology : Topology) (memory : Memory) :
    World.OffersRoutes ⟨.empty, Builtin.registerAll .builtin .empty, topology, memory⟩ where
  overrides := rfl
  defaults := rfl

/-- The candidates of a request are the routes that it is for. -/
theorem World.OffersRoutes.candidates {w : World Handler Memory} (offers : w.OffersRoutes) (r : Request) :
    (w.candidates r).map (fun c => (c.layer, c.entry.limit, c.entry.content.handler, c.captures)) =
      (Builtin.found r).map fun (b, captures) => (.defaults, none, .builtin b, captures) := by
  have kept := congrArg (fun l => l.reverse.filterMap fun x : Option Nat × Rule Handler =>
    (x.2.match? r).map fun captures => (Layer.defaults, x.1, x.2.handler, captures)) offers.defaults
  simp only [← List.map_reverse, List.filterMap_map] at kept
  simp only [World.candidates, Layer.all, List.flatMap_cons, List.flatMap_nil, World.candidatesIn, World.scope,
    offers.overrides, List.reverse_nil, List.filterMap_nil, List.nil_append, List.append_nil, List.map_filterMap,
    Option.map_map, Builtin.found]
  exact kept

theorem Builtin.status_render_ok (config : Bytes) : (render (.ok config)).status = 200 := rfl

theorem Builtin.status_render_error (fault : Fault) :
    (render (.error fault)).status = if fault.status = .noBucket then 404 else 500 := by
  cases fault <;> rfl

/-- A configuration is shown with a valid status, also if there is none. -/
theorem Builtin.valid_render (config : Except Fault Bytes) :
    100 ≤ (render config).status ∧ (render config).status ≤ 999 := by
  cases config with
  | ok config => rw [status_render_ok]; decide
  | error fault => rw [status_render_error]; split <;> decide

/-- The last registered route that a request is for answers it. -/
theorem serve_of_found {w : World Handler Memory} (offers : w.OffersRoutes) {r : Request}
    (short : r.body.length ≤ maxBody) {b : Builtin} {captures : NameMap String} {rest : List (Builtin × NameMap String)}
    (hf : Builtin.found r = (b, captures) :: rest) {node : NodeId} {config : Except Fault Bytes}
    (answer : b.answer ⟨node, captures⟩ w.topology = some (Builtin.render config)) :
    (serve Handler.behaviour node w r).1 = Builtin.render config := by
  have candidates := offers.candidates r
  rw [hf] at candidates
  obtain ⟨c, cs, hcs, hc, -⟩ := List.map_eq_cons_iff.1 candidates
  obtain ⟨layer, ⟨handle, limit, ⟨method, path, handler⟩⟩, captured⟩ := c
  simp only [Prod.mk.injEq] at hc
  obtain ⟨rfl, rfl, rfl, rfl⟩ := hc
  have claimed : Candidate.claim ⟨.defaults, ⟨handle, none, ⟨method, path, .builtin b⟩⟩, captured⟩ w =
      some { w with defaults := w.defaults.fire handle } := rfl
  have dispatched : dispatch Handler.behaviour node w r =
      .returned { w with defaults := w.defaults.fire handle } (some (Builtin.render config)) := by
    rw [dispatch, hcs, ← answer]
    exact Chain.run_finished claimed rfl
  simp only [serve, if_neg (Nat.not_lt_of_le short), dispatched, sent, if_pos (Builtin.valid_render config)]

section Paths

theorem segments_pools : (PathPattern.ofString "/pools").segments = [.literal "pools"] := by decide +kernel

theorem segments_nodeServices : (PathPattern.ofString "/pools/default/nodeServices").segments =
    [.literal "pools", .literal "default", .literal "nodeServices"] := by decide +kernel

theorem segments_b : (PathPattern.ofString "/pools/default/b/\x7bbucket\x7d").segments =
    [.literal "pools", .literal "default", .literal "b", .capture "bucket"] := by decide +kernel

theorem segments_buckets : (PathPattern.ofString "/pools/default/buckets/\x7bbucket\x7d").segments =
    [.literal "pools", .literal "default", .literal "buckets", .capture "bucket"] := by decide +kernel

variable {r : Request} {name : String}

/-- For a path of a bucket there is one route, which captures the bucket. -/
theorem Builtin.found_bucket {list : String} (h : list = "b" ∨ list = "buckets") (get : r.method = "GET")
    (path : pathSegments r.path = ["pools", "default", list, name]) :
    found r = [(bucket, NameMap.empty.insert "bucket" name)] := by
  obtain rfl | rfl := h <;>
    simp [found, all, rule, Rule.match?, PathPattern.match?, PathPattern.matchSegments, get, path, segments_pools,
      segments_nodeServices, segments_b, segments_buckets]

theorem Builtin.found_nodeServices (get : r.method = "GET")
    (path : pathSegments r.path = ["pools", "default", "nodeServices"]) : found r = [(nodeServices, .empty)] := by
  simp [found, all, rule, Rule.match?, PathPattern.match?, PathPattern.matchSegments, get, path, segments_pools,
    segments_nodeServices, segments_b, segments_buckets]

/-- A route of buckets shows the configuration of the bucket that the path names. -/
theorem serve_bucket {w : World Handler Memory} (offers : w.OffersRoutes) {list : String}
    (h : list = "b" ∨ list = "buckets") (filled : name ≠ "") (slash : '/' ∉ name.toList) (query : '?' ∉ name.toList)
    (gets : r.Gets ("/pools/default/" ++ list ++ "/" ++ name)) (node : NodeId) :
    (serve Handler.behaviour node w r).1 = Builtin.render (w.topology.bucketConfig name node) := by
  have whole : '?' ∉ ("/pools/default/" ++ list ++ "/" ++ name).toList := by
    obtain rfl | rfl := h <;> simpa using query
  have path : pathSegments r.path = ["pools", "default", list, name] := by
    have front : pathSegments ("/pools/default/" ++ list) = ["pools", "default", list] := by
      obtain rfl | rfl := h <;> decide +kernel
    rw [gets.path, Request.path_create whole, pathSegments_append, pathSegments_of_not_mem filled slash, front]
    rfl
  refine serve_of_found offers gets.short (Builtin.found_bucket h gets.method path) ?_
  simp [Builtin.answer, NameMap.get?_insert]

theorem serve_nodeServices {w : World Handler Memory} (offers : w.OffersRoutes)
    (gets : r.Gets "/pools/default/nodeServices") (node : NodeId) :
    (serve Handler.behaviour node w r).1 = Builtin.render (w.topology.clusterConfig node) := by
  have path : pathSegments r.path = ["pools", "default", "nodeServices"] := by
    rw [gets.path, Request.path_create (by decide +kernel)]
    decide +kernel
  exact serve_of_found offers gets.short (Builtin.found_nodeServices gets.method path) rfl

end Paths

end Http

section Faults

theorem exists_of_mapM_eq_error {ε α β : Type} {f : α → Except ε β} {l : List α} {e : ε}
    (h : l.mapM f = .error e) : ∃ x ∈ l, f x = .error e := by
  induction l with
  | nil => cases h
  | cons x l ih =>
    rw [List.mapM_cons] at h
    cases hx : f x with
    | error => exact ⟨x, List.mem_cons_self, by simpa [hx, bind, Except.bind] using h⟩
    | ok y =>
      cases hl : l.mapM f with
      | error =>
        obtain ⟨z, hz, hf⟩ := ih (by simpa [hx, hl, bind, Except.bind] using h)
        exact ⟨z, List.mem_cons_of_mem _ hz, hf⟩
      | ok => simp [hx, hl, bind, Except.bind, pure, Except.pure] at h

/-- If there is no server for a slot of a bucket, the topology contradicts itself. -/
theorem VbucketServers.status_of_ofBucket_error {b : Bucket} {kvNodes : List Node} {network : Network} {fault : Fault}
    (h : ofBucket b kvNodes network = .error fault) : fault.status = .internalError := by
  let places (entry : VbucketRow × Nat) : Except Fault (List Int32) :=
    entry.1.mapM (slot b (kvNodes.map (·.id)) entry.2)
  have rows : ofBucket b kvNodes network =
      (b.map.zipIdx.mapM places).map fun map => ⟨b.replicas, kvNodes.map (server? network), map⟩ := rfl
  rw [rows] at h
  cases hm : b.map.zipIdx.mapM places with
  | ok map => rw [hm] at h; cases h
  | error found =>
    rw [hm] at h
    cases h
    obtain ⟨entry, -, he⟩ := exists_of_mapM_eq_error hm
    obtain ⟨place, -, hp⟩ := exists_of_mapM_eq_error he
    unfold slot at hp
    split at hp
    · cases hp
    · split at hp <;> cases hp
      rfl

namespace Topology

variable {t : Topology} {r : NodeId} {fault : Fault}

theorem status_of_networkOf_error (h : t.networkOf r = .error fault) : fault.status = .internalError := by
  unfold networkOf at h
  split at h <;> cases h
  rfl

theorem status_of_clusterConfig_error (h : t.clusterConfig r = .error fault) : fault.status = .internalError := by
  cases hn : t.networkOf r with
  | error found =>
    obtain rfl : found = fault := by
      simpa [clusterConfig, clusterDocument, hn, bind, Except.bind, Except.map] using h
    exact status_of_networkOf_error hn
  | ok network => simp [clusterConfig, clusterDocument, hn, bind, Except.bind, pure, Except.pure, Except.map] at h

theorem status_of_bucketConfig_error {name : String} (h : t.bucketConfig name r = .error fault) :
    fault.status = .noBucket ∨ fault.status = .internalError := by
  unfold bucketConfig at h
  obtain ⟨found, hn, hd⟩ | hd | ⟨b, network, found, hv, hd⟩ | ⟨d, hd, -⟩ := t.bucketDocument_cases name r <;>
    rw [hd] at h <;> cases h
  · exact .inr (status_of_networkOf_error hn)
  · exact .inl rfl
  · exact .inr (VbucketServers.status_of_ofBucket_error hv)

end Topology

end Faults

section Agreement

/-- A response of the binary protocol and one over HTTP say the same about a configuration. -/
structure Agrees (kv : Packet) (http : Http.Response) : Prop where
  found : http.status = 200 ↔ kv.status = .success
  /-- The configuration is the same, byte for byte. -/
  body : kv.status = .success → http.body = kv.value
  missing : http.status = 404 ↔ kv.status = .noBucket
  failed : http.status = 500 ↔ kv.status = .internalError
  /-- Nothing else is ever said. -/
  complete : kv.status = .success ∨ kv.status = .noBucket ∨ kv.status = .internalError

/-- The two protocols say the same about whatever there is to say. -/
theorem Agrees.configResponse {H : Type} {client : Kv.Client H} {t : Topology} {p : Packet}
    {config : Except Fault Bytes} (hc : Kv.Builtin.configFor client t = config)
    (known : ∀ fault, config = .error fault → fault.status = .noBucket ∨ fault.status = .internalError) :
    Agrees (Kv.Builtin.configResponse client t p) (Http.Builtin.render config) := by
  cases config with
  | ok config =>
    have status : (Kv.Builtin.configResponse client t p).status = .success := by
      simp only [Kv.Builtin.configResponse, hc]
      rfl
    have value : (Kv.Builtin.configResponse client t p).value = config := by simp only [Kv.Builtin.configResponse, hc]
    exact {
      found := by simp [status, Http.Builtin.status_render_ok]
      body := fun _ => value.symm
      missing := by simp [status, Http.Builtin.status_render_ok]
      failed := by simp [status, Http.Builtin.status_render_ok]
      complete := .inl status }
  | error fault =>
    have status : (Kv.Builtin.configResponse client t p).status = fault.status := by
      simp only [Kv.Builtin.configResponse, hc]
    obtain hf | hf := known fault rfl <;> constructor <;>
      simp [status, hf, Http.Builtin.status_render_error]

/-- **A route and a connection answer alike.** Let the built-in services be all that is registered, and let a connection
that a node accepted ask for the configuration. It gets a response, and both routes of the bucket that it has selected
say the same at the HTTP server of this node; if it has selected no bucket, the route of the cluster does. The node may
be in the cluster or not, and the bucket may have gone since it was selected. -/
theorem config_agrees {credentials : Credentials} {client : Kv.Client Kv.Handler}
    {shared : Kv.Shared Kv.Handler Script.Memory} {w : Http.World Http.Handler Script.Memory}
    (services : shared.OffersBuiltins credentials) (own : client.own.entries = []) (routes : w.OffersRoutes)
    (same : w.topology = shared.topology) {p : Packet} (plain : p.magic = .req)
    (asks : p.command = .getClusterConfig) :
    ∃ ex response, Kv.dispatch Kv.Handler.behaviour (.start client shared) p = .returned ex (.ok true) ∧
      ex.response = some response ∧
      ex.disconnect = false ∧
      (∀ name, client.bucket = some name → name ≠ "" → '/' ∉ name.toList → '?' ∉ name.toList → ∀ r : Http.Request,
        r.Gets ("/pools/default/b/" ++ name) ∨ r.Gets ("/pools/default/buckets/" ++ name) →
          Agrees response (Http.serve Http.Handler.behaviour client.node w r).1) ∧
      (client.bucket = none → ∀ r : Http.Request, r.Gets "/pools/default/nodeServices" →
        Agrees response (Http.serve Http.Handler.behaviour client.node w r).1) := by
  obtain ⟨defaults, -, dispatched⟩ := Kv.dispatch_builtins services own p
  rw [Kv.Client.replyTo?_of_getClusterConfig plain asks] at dispatched
  refine ⟨_, _, dispatched, rfl, rfl, fun name selected filled slash query r gets => ?_, fun unselected r gets => ?_⟩
  · have shown : (Http.serve Http.Handler.behaviour client.node w r).1 =
        Http.Builtin.render (shared.topology.bucketConfig name client.node) := by
      rw [← same]
      obtain gets | gets := gets
      · exact Http.serve_bucket routes (.inl rfl) filled slash query gets client.node
      · exact Http.serve_bucket routes (.inr rfl) filled slash query gets client.node
    rw [shown]
    refine Agrees.configResponse ?_ fun fault => Topology.status_of_bucketConfig_error
    rw [Kv.Builtin.configFor, selected]
  · have shown : (Http.serve Http.Handler.behaviour client.node w r).1 =
        Http.Builtin.render (shared.topology.clusterConfig client.node) := by
      rw [← same]
      exact Http.serve_nodeServices routes gets client.node
    rw [shown]
    refine Agrees.configResponse ?_ fun fault h => .inr (Topology.status_of_clusterConfig_error h)
    rw [Kv.Builtin.configFor, unselected]

/-- A bucket is created and removed. A connection that selected it in between is told that there is no bucket, and the
routes of the bucket are not found. -/
theorem config_agrees_removed :
    let t := Topology.mutateAll [.addNode "a" [.kv], .addBucket ⟨"x", 0, 1, none⟩, .removeBucket "x"] .initial
    let client : Kv.Client Kv.Handler := { Kv.Client.create 1 0 with bucket := some "x" }
    let shared : Kv.Shared Kv.Handler Script.Memory :=
      ⟨.empty, Kv.Builtin.registerAll .standard .builtin .empty, t, .empty⟩
    let w : Http.World Http.Handler Script.Memory := ⟨.empty, Http.Builtin.registerAll .builtin .empty, t, .empty⟩
    ∃ response : Packet,
      (Kv.dispatch Kv.Handler.behaviour (.start client shared) (.request .getClusterConfig)).world.response =
        some response ∧
      response.status = .noBucket ∧
      (Http.serve Http.Handler.behaviour 0 w (.create "GET" "/pools/default/b/x")).1.status = 404 ∧
      (Http.serve Http.Handler.behaviour 0 w (.create "GET" "/pools/default/buckets/x")).1.status = 404 := by
  intro t client shared w
  have services := Kv.offersBuiltins_registerAll .standard t .empty
  obtain ⟨ex, response, dispatched, left, -, buckets, -⟩ :=
    @config_agrees .standard client shared w services rfl (Http.offersRoutes_registerAll t .empty) rfl
      (.request .getClusterConfig) rfl rfl
  have agrees (r : Http.Request) := buckets "x" rfl (by decide) (by decide +kernel) (by decide +kernel) r
  have told : (Kv.dispatch Kv.Handler.behaviour (.start client shared) (.request .getClusterConfig)).world.response =
      some response := by rw [dispatched]; exact left
  have missing : response.status = .noBucket := by
    have answered : (Kv.dispatch Kv.Handler.behaviour (.start client shared)
        (.request .getClusterConfig)).world.response.map (·.status) = some .noBucket := by decide +kernel
    rw [told] at answered
    exact Option.some.inj answered
  exact ⟨response, told, missing, (agrees _ (.inl (Http.gets_create _))).missing.2 missing,
    (agrees _ (.inr (Http.gets_create _))).missing.2 missing⟩

end Agreement

end MockCluster
