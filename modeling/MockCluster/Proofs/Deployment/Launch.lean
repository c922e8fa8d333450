import Mathlib.Data.List.Nodup
import MockCluster.Deployment

/-!
# Starting the servers of a deployment

A start goes through a plan, which is read off the settings (`Settings.openings`): the listeners that it will open and
the ports that it will ask for. For each of them in turn the host is asked, the listener is added to the servers of its
node, and its port is published. The host may refuse, and the node may be gone from the topology.

| | what is kept |
| --- | --- |
| `Opens` | the listeners that are open are those planned so far, and they are what the host gave away |
| `Reached` | moreover, the topology names their ports |
| `Failed` | a part of the plan is done, and what comes next cannot be |

`Launch.ends_startNodes` takes this from one listener to the whole plan. As a failure can come between the two halves of
a step, when a listener is open whose port is not published, `Failed` is about `Opens` and not about `Reached`: that is
enough to close everything again.
-/

namespace MockCluster

section Published

namespace Topology

variable {t : Topology} {id : NodeId} {service : Service} {port : UInt16}

/-- The port of a service on the default address of a node. -/
def port? (t : Topology) (id : NodeId) (service : Service) : Option UInt16 :=
  (t.node? id).bind fun node => node.defaultAddress.ports.get? service

theorem node?_modifyNode {f : Node → Node} (hf : ∀ node, (f node).id = node.id) (other : NodeId) :
    (t.modifyNode id f).node? other = (t.node? other).map fun node => if node.id = id then f node else node := by
  have numbers (node : Node) : (if node.id = id then f node else node).id = node.id := by
    split
    · exact hf node
    · rfl
  rw [node?, modifyNode, List.find?_map, node?]
  congr 2
  funext node
  exact congrArg (fun number : NodeId => decide (number = other)) (numbers node)

/-- The port of a service is published, if the node is there. All other ports stay, and so do the nodes. -/
theorem exists_update_setPort (there : (t.node? id).isSome) (service : Service) (port : UInt16) :
    ∃ next, t.update (Edit.setPort id service port) = (.ok (), next) ∧
      (∀ other s, next.port? other s = if other = id ∧ s = service then some port else t.port? other s) ∧
      ∀ other, (next.node? other).isSome = (t.node? other).isSome := by
  obtain ⟨node, found⟩ := Option.isSome_iff_exists.1 there
  have changed : Edit.setPort id service port t = .ok ((), t.modifyNode id (·.setPort service port)) := by
    simp [Edit.setPort, Edit.changeNode, found]
  have nodes (other : NodeId) : (t.modifyNode id (·.setPort service port)).node? other =
      (t.node? other).map fun node => if node.id = id then node.setPort service port else node :=
    node?_modifyNode (f := (·.setPort service port)) (fun _ => rfl) other
  refine ⟨_, update_ok changed, fun other s => ?_, fun other => ?_⟩
  · refine (congrArg (Option.bind · fun node => node.defaultAddress.ports.get? s) (nodes other)).trans ?_
    cases found' : t.node? other with
    | none =>
      have elsewhere : ¬(other = id ∧ s = service) := by
        rintro ⟨rfl, -⟩
        rw [found] at found'
        cases found'
      simp [port?, found', elsewhere]
    | some node' =>
      obtain rfl : node'.id = other := by simpa using List.find?_some found'
      by_cases same : node'.id = id
      · subst same
        simp [port?, found', Node.setPort, PortMap.get?_insert]
      · simp [port?, found', same]
  · exact (congrArg Option.isSome (nodes other)).trans Option.isSome_map

theorem update_setPort_of_none (absent : t.node? id = none) (service : Service) (port : UInt16) :
    t.update (Edit.setPort id service port) = (.error (.unknownNode id), t) :=
  update_error (by simp [Edit.setPort, Edit.changeNode, absent])

end Topology

end Published

namespace Host

/-- The host after it granted a request, or why it does not. -/
def take (host : Host) (request : Endpoint) : Except String Host :=
  (host.bind request).map fun port => host.hold { request with port }

/-- The host after it granted one request after another, or why it refuses one of them. -/
def takeAll (host : Host) (requests : List Endpoint) : Except String Host := requests.foldlM take host

theorem takeAll_append (host : Host) (requests others : List Endpoint) :
    host.takeAll (requests ++ others) = (host.takeAll requests).bind fun host => host.takeAll others :=
  List.foldlM_append

theorem takeAll_concat_of_ok {host next : Host} {requests : List Endpoint} (h : host.takeAll requests = .ok next)
    (request : Endpoint) : host.takeAll (requests ++ [request]) = next.take request := by
  rw [takeAll_append, h]
  exact List.foldlM_cons.trans (bind_pure (next.take request))

/-- Where no other programs run, requests for certain ports are granted if they are for different endpoints, none of
which is held. -/
theorem exists_takeAll_grantFree_iff {host : Host} {requests : List Endpoint} (free : host.grant = grantFree)
    (pinned : ∀ request ∈ requests, request.port ≠ 0) :
    (∃ last, host.takeAll requests = .ok last) ↔ requests.Nodup ∧ ∀ request ∈ requests, request ∉ host.held := by
  induction requests generalizing host with
  | nil => simp [takeAll, pure, Except.pure]
  | cons request rest ih =>
    rw [List.forall_mem_cons] at pinned
    have step : host.takeAll (request :: rest) = (host.take request).bind fun host => host.takeAll rest :=
      List.foldlM_cons
    by_cases taken : request ∈ host.held
    · have refused : host.take request = .error inUse := by
        simp [take, bind, free, grantFree, pinned.1, taken, Except.map]
      simp [step, refused, taken, Except.bind]
    · have granted : host.take request = .ok (host.hold request) := by
        simp [take, bind, free, (grantFree_eq_ok_iff pinned.1).2 ⟨taken, rfl⟩, Except.map]
      have others : (∃ last, (host.hold request).takeAll rest = .ok last) ↔ _ := ih free pinned.2
      rw [step, granted]
      refine others.trans ?_
      rw [List.nodup_cons, List.forall_mem_cons]
      simp only [hold, List.mem_cons, not_or]
      constructor
      · rintro ⟨distinct, apart⟩
        exact ⟨⟨fun mem => (apart request mem).1 rfl, distinct⟩, taken, fun r hr => (apart r hr).2⟩
      · rintro ⟨⟨new, distinct⟩, -, apart⟩
        exact ⟨distinct, fun r hr => ⟨fun same => new (same ▸ hr), apart r hr⟩⟩

theorem takeAll_prefix {host next : Host} {requests all : List Endpoint} (h : requests <+: all)
    (granted : host.takeAll all = .ok next) : ∃ earlier, host.takeAll requests = .ok earlier := by
  obtain ⟨others, rfl⟩ := h
  rw [takeAll_append] at granted
  cases first : host.takeAll requests with
  | ok earlier => exact ⟨earlier, rfl⟩
  | error reason =>
    rw [first] at granted
    cases granted

end Host

section Plan

/-- A listener that a start is to open. -/
structure Opening where
  node : NodeId
  service : Service
  /-- The port to ask for. Port 0 stands for any port. -/
  port : UInt16
  deriving DecidableEq, Repr

namespace Opening

/-- The server of a node that the listener is for. -/
def server (o : Opening) : NodeId × Service := (o.node, o.service)

/-- What the host is asked for. -/
def request (address : IpAddress) (o : Opening) : Endpoint := { address, port := o.port }

end Opening

/-- A listener that is open. -/
structure Opened where
  node : NodeId
  service : Service
  listener : Listener

/-- The server of a node that the listener is for. -/
def Opened.server (x : Opened) : NodeId × Service := (x.node, x.service)

/-- What is to be opened for the node at a place. -/
def NodeSettings.openings (l : ListenerSettings) (index : Nat) (node : NodeId) (n : NodeSettings) : List Opening :=
  (if n.services.contains .kv then [⟨node, .kv, Deployment.portAt l.kvPortBase index⟩] else []) ++
    if n.services.contains .mgmt then [⟨node, .mgmt, Deployment.portAt l.httpPortBase index⟩] else []

/-- What is to be opened for the nodes, the first of which is at a place. -/
def ListenerSettings.openings (l : ListenerSettings) : Nat → List (NodeId × NodeSettings) → List Opening
  | _, [] => []
  | index, (node, n) :: rest => n.openings l index node ++ l.openings (index + 1) rest

/-- What is to be opened for a deployment of some settings. -/
def Settings.openings (s : Settings) : List Opening :=
  s.listeners.openings 0 ((List.range s.nodes.length).zip s.nodes)

theorem NodeSettings.mem_openings_iff {n : NodeSettings} {l : ListenerSettings} {index : Nat} {node : NodeId}
    {o : Opening} : o ∈ n.openings l index node ↔
      (Service.kv ∈ n.services ∧ o = ⟨node, .kv, Deployment.portAt l.kvPortBase index⟩) ∨
        (Service.mgmt ∈ n.services ∧ o = ⟨node, .mgmt, Deployment.portAt l.httpPortBase index⟩) := by
  rw [openings, List.mem_append, List.mem_ite_nil_right, List.mem_ite_nil_right, List.mem_singleton, List.mem_singleton,
    List.contains_iff_mem, List.contains_iff_mem]

theorem ListenerSettings.mem_openings_iff {l : ListenerSettings} {index : Nat} {nodes : List (NodeId × NodeSettings)}
    {o : Opening} : o ∈ l.openings index nodes ↔
      ∃ i node, ∃ n : NodeSettings, nodes[i]? = some (node, n) ∧ o ∈ n.openings l (index + i) node := by
  induction nodes generalizing index with
  | nil => simp [openings]
  | cons entry rest ih =>
    obtain ⟨node, n⟩ := entry
    rw [openings, List.mem_append, ih]
    constructor
    · rintro (here | ⟨i, node', n', found, there⟩)
      · exact ⟨0, node, n, rfl, here⟩
      · refine ⟨i + 1, node', n', found, ?_⟩
        rwa [Nat.add_right_comm] at there
    · rintro ⟨i, node', n', found, there⟩
      cases i with
      | zero =>
        cases found
        exact .inl there
      | succ i =>
        refine .inr ⟨i, node', n', found, ?_⟩
        rwa [Nat.add_right_comm]

/-- What is opened for a deployment: for every node a listener for documents and one for administration, so far as it
runs these services. -/
theorem Settings.mem_openings_iff {s : Settings} {o : Opening} :
    o ∈ s.openings ↔ ∃ id n, s.nodes[id]? = some n ∧
      ((Service.kv ∈ n.services ∧ o = ⟨id, .kv, Deployment.portAt s.listeners.kvPortBase id⟩) ∨
        (Service.mgmt ∈ n.services ∧ o = ⟨id, .mgmt, Deployment.portAt s.listeners.httpPortBase id⟩)) := by
  rw [openings, ListenerSettings.mem_openings_iff]
  refine exists_congr fun id => ?_
  constructor
  · rintro ⟨node, n, found, mem⟩
    obtain ⟨number, found⟩ := List.getElem?_zip_eq_some.1 found
    obtain ⟨hi, rfl⟩ := List.getElem?_eq_some_iff.1 number
    rw [List.getElem_range, Nat.zero_add] at mem
    exact ⟨n, found, NodeSettings.mem_openings_iff.1 mem⟩
  · rintro ⟨n, found, mem⟩
    have hi : id < s.nodes.length := (List.getElem?_eq_some_iff.1 found).1
    refine ⟨id, n, List.getElem?_zip_eq_some.2 ⟨List.getElem?_range hi, found⟩, ?_⟩
    rw [Nat.zero_add]
    exact NodeSettings.mem_openings_iff.2 mem

variable {K R M : Type}

/-- The listeners of a node. -/
def NodeServers.opened (s : NodeServers K) : List Opened :=
  (s.kv.map fun server => ⟨s.node, .kv, server.listener⟩).toList ++
    (s.http.map fun listener => ⟨s.node, .mgmt, listener⟩).toList

namespace NodeServers

@[simp] theorem opened_none (node : NodeId) : opened (⟨node, none, none⟩ : NodeServers K) = [] := rfl

@[simp] theorem opened_kv (node : NodeId) (server : Kv.Server K) :
    opened ⟨node, some server, none⟩ = [⟨node, .kv, server.listener⟩] := rfl

@[simp] theorem opened_http (node : NodeId) (kv : Option (Kv.Server K)) (listener : Listener) :
    opened ⟨node, kv, some listener⟩ = opened ⟨node, kv, none⟩ ++ [⟨node, .mgmt, listener⟩] := by
  simp [opened]

/-- The listener of the server for a service. -/
def listener? (s : NodeServers K) : Service → Option Listener
  | .kv => s.kv.map (·.listener)
  | .mgmt => s.http
  | _ => none

theorem mem_opened_iff {s : NodeServers K} {x : Opened} :
    x ∈ s.opened ↔ x.node = s.node ∧ s.listener? x.service = some x.listener := by
  obtain ⟨node, service, listener⟩ := x
  obtain ⟨own, kv, http⟩ := s
  cases service <;> cases kv <;> cases http <;> simp [opened, listener?, eq_comm]

end NodeServers

end Plan

namespace Deployment

section Servers

variable {K R M : Type}

/-- The listeners of all nodes. -/
def opened (d : Deployment K R M) : List Opened := d.servers.flatMap (·.opened)

/-- The deployment with other servers and another topology. -/
def replace (d : Deployment K R M) (servers : List (NodeServers K)) (topology : Topology) : Deployment K R M :=
  { d with servers, shared := { d.shared with topology } }

/-- The last servers are changed that there are. -/
theorem modifyServers_last {d : Deployment K R M} {init : List (NodeServers K)} {s : NodeServers K}
    (servers : d.servers = init ++ [s]) (new : s.node ∉ init.map (·.node)) (f : NodeServers K → NodeServers K) :
    d.modifyServers s.node f = { d with servers := init ++ [f s] } := by
  have others : init.map (fun other => if other.node = s.node then f other else other) = init := by
    refine (List.map_congr_left fun other ho => if_neg fun same => ?_).trans (List.map_id init)
    exact new (same ▸ List.mem_map_of_mem ho)
  rw [modifyServers, servers, List.map_append, others, List.map_singleton, if_pos rfl]

end Servers

section Relations

variable {K R M : Type}

/-- Since a first state the planned listeners were opened, which are what the host gave away, and no others are open.
Besides, at most the topology changed, and it has the nodes that it had. -/
structure Opens (first : Host × Deployment K R M) (address : IpAddress) (planned : List Opening)
    (now : Host × Deployment K R M) : Prop where
  servers : now.2.opened.map Opened.server = planned.map Opening.server
  running : ∀ x ∈ now.2.opened, x.listener.running = true
  granted : first.1.takeAll (planned.map (·.request address)) = .ok now.1
  host : now.1 = { first.1 with held := (now.2.opened.map (·.listener.endpoint)).reverse ++ first.1.held }
  nodes : ∀ id, (now.2.shared.topology.node? id).isSome = (first.2.shared.topology.node? id).isSome
  rest : now.2 = first.2.replace now.2.servers now.2.shared.topology

/-- Moreover, the topology names the ports of the listeners. -/
structure Reached (first : Host × Deployment K R M) (address : IpAddress) (planned : List Opening)
    (now : Host × Deployment K R M) : Prop extends Opens first address planned now where
  named : ∀ x ∈ now.2.opened, now.2.shared.topology.port? x.node x.service = some x.listener.port

/-- How it comes that a plan is not carried out: a part of it is done, and then the next listener cannot be opened, or
its port cannot be published. -/
inductive Failed (first : Host × Deployment K R M) (address : IpAddress) (plan : List Opening) :
    StartFault → Host × Deployment K R M → Prop
  /-- The host refuses the next request. -/
  | refused {done : List Opening} {o : Opening} {now : Host × Deployment K R M} {reason : String}
      (next : done ++ [o] <+: plan) (opens : Opens first address done now)
      (refused : now.1.bind (o.request address) = .error reason) :
      Failed first address plan (.server o.service o.node (.bind (o.request address) reason)) now
  /-- The node of the listener that was opened last is gone. -/
  | missing {done : List Opening} {o : Opening} {now : Host × Deployment K R M} (next : done ++ [o] <+: plan)
      (opens : Opens first address (done ++ [o]) now) (absent : first.2.shared.topology.node? o.node = none) :
      Failed first address plan (.unpublished (.unknownNode o.node)) now

variable {first now : Host × Deployment K R M} {address : IpAddress} {planned plan : List Opening} {fault : StartFault}

/-- A part of a plan fails as a part of the plan. -/
theorem Failed.mono (failed : Failed first address planned fault now) (part : planned <+: plan) :
    Failed first address plan fault now := by
  cases failed with
  | refused next opens refused => exact .refused (next.trans part) opens refused
  | missing next opens absent => exact .missing (next.trans part) opens absent

/-- However a start fails, the listeners that were opened are accounted for. -/
theorem Failed.exists_opens (failed : Failed first address plan fault now) :
    ∃ done, Opens first address done now := by
  cases failed with
  | refused next opens refused => exact ⟨_, opens⟩
  | missing next opens absent => exact ⟨_, opens⟩

/-- One more listener is opened. -/
theorem Opens.concat (opens : Opens first address planned now) {o : Opening} {listener : Listener}
    (granted : now.1.bind (o.request address) = .ok listener.port) (here : listener.address = address)
    (running : listener.running = true) {servers : List (NodeServers K)}
    (added : servers.flatMap (·.opened) = now.2.opened ++ [⟨o.node, o.service, listener⟩]) :
    Opens first address (planned ++ [o]) (now.1.hold listener.endpoint, { now.2 with servers }) where
  servers := by
    rw [opened, added, List.map_append, opens.servers, List.map_append]
    rfl
  running x hx := by
    rw [opened, added] at hx
    rcases List.mem_append.1 hx with hx | hx
    · exact opens.running x hx
    · obtain rfl := List.mem_singleton.1 hx
      exact running
  granted := by
    rw [List.map_append, List.map_singleton, Host.takeAll_concat_of_ok opens.granted, Host.take, granted, ← here]
    rfl
  host := by
    have held : now.1.held = _ := congrArg Host.held opens.host
    rw [opened, added, List.map_append, List.reverse_append, Host.hold, held, opens.host]
    rfl
  nodes := opens.nodes
  rest := congrArg (·.replace servers now.2.shared.topology) opens.rest

end Relations

namespace Launch

variable {K R M : Type}

/-- What a part of a start leads to: a state that is as it should be, or a fault that there is a reason for. -/
def Ends (part : Launch K R M Unit) (now : Host × Deployment K R M) (done : Host × Deployment K R M → Prop)
    (failed : StartFault → Host × Deployment K R M → Prop) : Prop :=
  match part.run now with
  | .ok () next => done next
  | .error fault next => failed fault next

section Ends

variable {part : Launch K R M Unit} {now : Host × Deployment K R M} {done done' : Host × Deployment K R M → Prop}
  {failed failed' : StartFault → Host × Deployment K R M → Prop}

theorem Ends.bind {rest : Unit → Launch K R M Unit} (h : part.Ends now done' failed)
    (hr : ∀ next, done' next → (rest ()).Ends next done failed) : (part >>= rest).Ends now done failed := by
  unfold Ends at h ⊢
  rw [EStateM.run_bind]
  cases run : part.run now with
  | ok _ next =>
    rw [run] at h
    exact hr next h
  | error fault next =>
    rw [run] at h
    exact h

theorem Ends.imp (h : part.Ends now done failed) (hd : ∀ next, done next → done' next)
    (hf : ∀ fault next, failed fault next → failed' fault next) : part.Ends now done' failed' := by
  unfold Ends at h ⊢
  cases run : part.run now with
  | ok _ next =>
    rw [run] at h
    exact hd next h
  | error fault next =>
    rw [run] at h
    exact hf fault next h

end Ends

variable {first now : Host × Deployment K R M} {address : IpAddress} {planned : List Opening}

/-- The port of the listener that was opened last is published. -/
theorem ends_publish {o : Opening} {listener : Listener} {before : List Opened}
    (opens : Opens first address (planned ++ [o]) now)
    (added : now.2.opened = before ++ [⟨o.node, o.service, listener⟩])
    (new : ∀ x ∈ before, x.server ≠ o.server)
    (named : ∀ x ∈ before, now.2.shared.topology.port? x.node x.service = some x.listener.port) :
    (publish o.node o.service listener.port).Ends now
      (fun next => Reached first address (planned ++ [o]) next ∧ next.2.servers = now.2.servers)
      (Failed first address (planned ++ [o])) := by
  obtain ⟨host, d⟩ := now
  by_cases there : (d.shared.topology.node? o.node).isSome
  · obtain ⟨t, published, ports, kept⟩ := Topology.exists_update_setPort there o.service listener.port
    have run : (publish o.node o.service listener.port).run (host, d) =
        .ok () (host, { d with shared := { d.shared with topology := t } }) := by
      simp [publish, published]
    rw [Ends, run]
    have rest := congrArg (·.replace d.servers t) opens.rest
    have nodes (id : NodeId) : (t.node? id).isSome = (first.2.shared.topology.node? id).isSome :=
      (kept id).trans (opens.nodes id)
    refine ⟨⟨⟨opens.servers, opens.running, opens.granted, opens.host, nodes, rest⟩, fun x hx => ?_⟩, rfl⟩
    · refine (ports x.node x.service).trans ?_
      have hx : x ∈ before ++ [⟨o.node, o.service, listener⟩] := added ▸ hx
      rcases List.mem_append.1 hx with hx | hx
      · have differs : ¬(x.node = o.node ∧ x.service = o.service) := fun same =>
          new x hx (Prod.ext same.1 same.2)
        rw [if_neg differs]
        exact named x hx
      · obtain rfl := List.mem_singleton.1 hx
        exact if_pos ⟨rfl, rfl⟩
  · have absent : d.shared.topology.node? o.node = none := Option.not_isSome_iff_eq_none.1 there
    have run : (publish o.node o.service listener.port).run (host, d) =
        .error (.unpublished (.unknownNode o.node)) (host, d) := by
      simp [publish, Topology.update_setPort_of_none absent]
    have gone : first.2.shared.topology.node? o.node = none := by
      rw [← Option.not_isSome_iff_eq_none, ← opens.nodes o.node]
      exact there
    rw [Ends, run]
    exact .missing (List.prefix_refl _) opens gone

theorem run_startKv_of_refused {host : Host} {d : Deployment K R M} {reason : String} (node : NodeId) {port : UInt16}
    (refused : host.bind { address, port } = .error reason) :
    (startKv address node port).run (host, d) =
      .error (.server .kv node (.bind { address, port } reason)) (host, d) := by
  rw [startKv, EStateM.run_bind, EStateM.run_get]
  simp [Kv.Server.startOn, Kv.Server.create, Kv.Server.start, Listener.create, Listener.start,
    Listener.endpoint, refused]

theorem run_startKv_of_granted {host : Host} (d : Deployment K R M) (node : NodeId) {asked port : UInt16}
    (granted : host.bind { address, port := asked } = .ok port) :
    ∃ server : Kv.Server K, server.listener.port = port ∧ server.listener.address = address ∧
      server.listener.running = true ∧
      (startKv address node asked).run (host, d) = (publish node .kv server.listener.port).run
        (host.hold server.listener.endpoint, d.modifyServers node ({ · with kv := some server })) := by
  refine ⟨⟨node, ⟨s!"kv {node.name}", address, port, true⟩, Kv.Hub.create.resume⟩, rfl, rfl, rfl, ?_⟩
  rw [startKv, EStateM.run_bind, EStateM.run_get]
  simp [Kv.Server.startOn, Kv.Server.create, Kv.Server.start, Listener.create, Listener.start,
    Listener.endpoint, granted, Host.afterStart]

theorem run_startHttp_of_refused {host : Host} {d : Deployment K R M} {reason : String} (node : NodeId) {port : UInt16}
    (refused : host.bind { address, port } = .error reason) :
    (startHttp address node port).run (host, d) =
      .error (.server .mgmt node (.bind { address, port } reason)) (host, d) := by
  rw [startHttp, EStateM.run_bind, EStateM.run_get]
  simp [Host.start, Listener.create, Listener.start, Listener.endpoint, refused]

theorem run_startHttp_of_granted {host : Host} (d : Deployment K R M) (node : NodeId) {asked port : UInt16}
    (granted : host.bind { address, port := asked } = .ok port) :
    ∃ listener : Listener, listener.port = port ∧ listener.address = address ∧ listener.running = true ∧
      (startHttp address node asked).run (host, d) = (publish node .mgmt listener.port).run
        (host.hold listener.endpoint, d.modifyServers node ({ · with http := some listener })) := by
  refine ⟨⟨s!"mgmt {node.name}", address, port, true⟩, rfl, rfl, rfl, ?_⟩
  rw [startHttp, EStateM.run_bind, EStateM.run_get]
  simp [Host.start, Listener.create, Listener.start, Listener.endpoint, granted, Host.afterStart]

/-- A part of a start is one for an opening: it asks the host for the listener and, if it gets it, adds it to the
servers and publishes its port. -/
structure Serves (o : Opening) (address : IpAddress) (part : Launch K R M Unit) (now : Host × Deployment K R M)
    (becomes : List (NodeServers K) → Prop) : Prop where
  refused : ∀ reason, now.1.bind (o.request address) = .error reason →
    part.run now = .error (.server o.service o.node (.bind (o.request address) reason)) now
  granted : ∀ port, now.1.bind (o.request address) = .ok port → ∃ listener servers,
    listener.port = port ∧ listener.address = address ∧ listener.running = true ∧
      servers.flatMap NodeServers.opened = now.2.opened ++ [⟨o.node, o.service, listener⟩] ∧ becomes servers ∧
      part.run now = (publish o.node o.service listener.port).run (now.1.hold listener.endpoint, { now.2 with servers })

/-- **One step of a start.** It opens the next listener of the plan, or there is a reason why not. -/
theorem Serves.ends {o : Opening} {part : Launch K R M Unit} {becomes : List (NodeServers K) → Prop}
    (serves : Serves o address part now becomes) (reached : Reached first address planned now)
    (new : ∀ x ∈ now.2.opened, x.server ≠ o.server) :
    part.Ends now (fun next => Reached first address (planned ++ [o]) next ∧ becomes next.2.servers)
      (Failed first address (planned ++ [o])) := by
  cases granted : now.1.bind (o.request address) with
  | error reason =>
    rw [Ends, serves.refused reason granted]
    exact .refused (List.prefix_refl _) reached.toOpens granted
  | ok port =>
    obtain ⟨listener, servers, rfl, here, running, added, becomes, run⟩ := serves.granted port granted
    have opens := reached.toOpens.concat granted here running added
    have published := ends_publish opens added new reached.named
    rw [Ends, run]
    refine published.imp (fun next h => ⟨h.1, ?_⟩) fun _ _ failed => failed
    rw [h.2]
    exact becomes

/-- A part of a start may be left out. -/
theorem Serves.ends_if {o : Opening} {part : Launch K R M Unit} {becomes : List (NodeServers K) → Prop} {wanted : Bool}
    (serves : Serves o address part now becomes) (reached : Reached first address planned now)
    (new : ∀ x ∈ now.2.opened, x.server ≠ o.server) (left : becomes now.2.servers) :
    Ends (if wanted then part else pure ()) now
      (fun next => Reached first address (planned ++ if wanted then [o] else []) next ∧ becomes next.2.servers)
      (Failed first address (planned ++ if wanted then [o] else [])) := by
  cases wanted with
  | true => exact serves.ends reached new
  | false =>
    rw [if_neg Bool.false_ne_true, if_neg Bool.false_ne_true, List.append_nil]
    exact ⟨reached, left⟩

section Node

variable {init : List (NodeServers K)} {node : NodeId} {kv : Option (Kv.Server K)}

theorem node_ne_of_mem (new : node ∉ init.map (·.node)) : ∀ x ∈ init.flatMap NodeServers.opened, x.node ≠ node := by
  rintro x hx rfl
  obtain ⟨s, hs, hx⟩ := List.mem_flatMap.1 hx
  exact new ((NodeServers.mem_opened_iff.1 hx).1 ▸ List.mem_map_of_mem hs)

theorem serves_startKv (servers : now.2.servers = init ++ [⟨node, none, none⟩]) (new : node ∉ init.map (·.node))
    (port : UInt16) : Serves ⟨node, .kv, port⟩ address (startKv address node port) now fun servers =>
      ∃ kv, servers = init ++ [⟨node, kv, none⟩] where
  refused reason refused := run_startKv_of_refused node refused
  granted got granted := by
    obtain ⟨server, same, here, running, run⟩ := run_startKv_of_granted now.2 node granted
    refine ⟨server.listener, init ++ [⟨node, some server, none⟩], same, here, running, ?_, ⟨server, rfl⟩, ?_⟩
    · rw [opened, servers]
      simp
    · rw [modifyServers_last servers new] at run
      exact run

theorem serves_startHttp (servers : now.2.servers = init ++ [⟨node, kv, none⟩]) (new : node ∉ init.map (·.node))
    (port : UInt16) : Serves ⟨node, .mgmt, port⟩ address (startHttp address node port) now fun servers =>
      servers.map (·.node) = init.map (·.node) ++ [node] where
  refused reason refused := run_startHttp_of_refused node refused
  granted got granted := by
    obtain ⟨listener, same, here, running, run⟩ := run_startHttp_of_granted now.2 node granted
    refine ⟨listener, init ++ [⟨node, kv, some listener⟩], same, here, running, ?_, List.map_append, ?_⟩
    · rw [opened, servers]
      simp
    · rw [modifyServers_last servers new] at run
      exact run

end Node

theorem run_startNode (address : IpAddress) (index : Nat) (node : NodeId) (n : NodeSettings) (host : Host)
    (d : Deployment K R M) :
    (startNode address index node n).run (host, d) = EStateM.run
      ((if n.services.contains .kv then startKv address node (portAt d.settings.listeners.kvPortBase index)
          else pure ()) >>= fun _ =>
        if n.services.contains .mgmt then startHttp address node (portAt d.settings.listeners.httpPortBase index)
          else pure ())
      (host, { d with servers := d.servers ++ [(⟨node, none, none⟩ : NodeServers K)] }) := by
  unfold startNode
  cases n.services.contains .kv <;> rfl

/-- **The start of a node.** It opens what is planned for the node, or there is a reason why not. -/
theorem ends_startNode (index : Nat) {node : NodeId} (n : NodeSettings) (reached : Reached first address planned now)
    (new : node ∉ now.2.servers.map (·.node)) :
    (startNode address index node n).Ends now
      (fun next => Reached first address (planned ++ n.openings now.2.settings.listeners index node) next ∧
        next.2.servers.map (·.node) = now.2.servers.map (·.node) ++ [node])
      (Failed first address (planned ++ n.openings now.2.settings.listeners index node)) := by
  obtain ⟨host, d⟩ := now
  let begun : Deployment K R M := { d with servers := d.servers ++ [⟨node, none, none⟩] }
  have unchanged : begun.opened = d.opened := by
    simp [begun, opened]
  have begins : Reached first address planned (host, begun) := by
    have rest := congrArg (·.replace begun.servers d.shared.topology) reached.rest
    refine ⟨⟨?_, ?_, reached.granted, ?_, reached.nodes, rest⟩, ?_⟩ <;> rw [unchanged]
    · exact reached.servers
    · exact reached.running
    · exact reached.host
    · exact reached.named
  rw [Ends, run_startNode, NodeSettings.openings, ← List.append_assoc]
  have kv : Serves _ address _ (host, begun) _ := serves_startKv rfl new (portAt d.settings.listeners.kvPortBase index)
  refine Ends.bind ((kv.ends_if begins ?_ ⟨none, rfl⟩).imp (fun _ done => done) fun _ _ failed =>
    failed.mono (List.prefix_append ..)) fun next done => ?_
  · intro x hx same
    rw [unchanged] at hx
    exact node_ne_of_mem new x hx (congrArg Prod.fst same)
  · obtain ⟨reached, kv, servers⟩ := done
    refine (serves_startHttp servers new _).ends_if reached (fun x hx same => ?_) ?_
    · rw [opened, servers, List.flatMap_append] at hx
      rcases List.mem_append.1 hx with hx | hx
      · exact node_ne_of_mem new x hx (congrArg Prod.fst same)
      · cases kv with
        | none => simp at hx
        | some server =>
          obtain rfl : x = _ := by simpa using hx
          cases same
    · rw [servers, List.map_append]
      rfl

/-- **The start of all nodes.** The whole plan is carried out, or there is a reason why not. -/
theorem ends_startNodes {nodes : List (NodeId × NodeSettings)} (index : Nat)
    (reached : Reached first address planned now) (distinct : (now.2.servers.map (·.node) ++ nodes.map (·.1)).Nodup) :
    (startNodes address index nodes).Ends now
      (fun next => Reached first address (planned ++ first.2.settings.listeners.openings index nodes) next ∧
        next.2.servers.map (·.node) = now.2.servers.map (·.node) ++ nodes.map (·.1))
      (Failed first address (planned ++ first.2.settings.listeners.openings index nodes)) := by
  induction nodes generalizing index planned now with
  | nil =>
    rw [ListenerSettings.openings, List.append_nil]
    exact ⟨reached, (List.append_nil _).symm⟩
  | cons entry rest ih =>
    obtain ⟨node, n⟩ := entry
    have settings : now.2.settings = first.2.settings := congrArg (·.settings) reached.rest
    have new : node ∉ now.2.servers.map (·.node) := fun old =>
      (List.disjoint_of_nodup_append distinct) old List.mem_cons_self
    have one := ends_startNode index n reached new
    rw [settings] at one
    rw [startNodes, ListenerSettings.openings, ← List.append_assoc]
    refine Ends.bind (one.imp (fun _ done => done) fun _ _ failed => failed.mono (List.prefix_append ..))
      fun next done => ?_
    obtain ⟨reached, servers⟩ := done
    rw [List.map_cons, ← List.singleton_append, ← List.append_assoc, ← servers] at distinct ⊢
    exact ih (index + 1) reached distinct

end Launch

end Deployment

end MockCluster
