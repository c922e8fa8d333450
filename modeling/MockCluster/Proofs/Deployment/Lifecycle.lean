import MockCluster.Proofs.Deployment.Assembly
import MockCluster.Proofs.Deployment.Launch

/-!
# Starting and stopping

A deployment may be started and stopped any number of times, while its topology is edited and other programs come and go
on its host (`Course`). Throughout, its listeners are accounted for (`Holds`): all of them are open, and what its host
holds is theirs, apart from what others hold. Closing needs nothing else, so stopping never fails (`Holds.stop_eq`), and
a start that fails can take back what it did (`MadeOf.start_cases`). Whether it fails is up to the host and to the nodes
that are left in the topology (`MadeOf.start_ok_iff`). `lifecycle` puts this together.
-/

namespace MockCluster

theorem Host.foldl_release {host : Host} {endpoints own others : List Endpoint} (held : host.held = own ++ others)
    (same : own.Perm endpoints) : endpoints.foldl Host.release host = { host with held := others } := by
  induction endpoints generalizing host own with
  | nil =>
    obtain rfl := same.eq_nil
    rw [List.nil_append] at held
    rw [List.foldl_nil, ← held]
  | cons endpoint rest ih =>
    have mem : endpoint ∈ own := same.mem_iff.2 List.mem_cons_self
    have left : (host.release endpoint).held = own.erase endpoint ++ others := by
      rw [Host.release, held, List.erase_append_left _ mem]
    exact ih left (List.cons_perm_iff_perm_erase.1 same.symm).2.symm

/-- The listeners of valid settings have an address. -/
theorem Settings.Valid.exists_bindAddress {s : Settings} (valid : s.Valid) :
    ∃ address, s.bindAddress = .ok address := by
  obtain ⟨⟨address, parsed⟩, -⟩ := listenersFault?_eq_none_iff.1 valid.listeners
  exact ⟨address, by rw [bindAddress, parsed]⟩

namespace Deployment

variable {K R M : Type}

section Stop

/-- The listeners of a deployment are open, and its host holds nothing but them and what others hold. -/
structure Holds (others : List Endpoint) (host : Host) (d : Deployment K R M) : Prop where
  running : ∀ x ∈ d.opened, x.listener.running = true
  held : ∃ own, own.Perm (d.opened.map (·.listener.endpoint)) ∧ host.held = own ++ others

theorem closeKv_of_running (host : Host) (node : NodeId) {server : Kv.Server K}
    (running : server.listener.running = true) :
    closeKv host node (some server) = (.ok (), host.release server.listener.endpoint) := by
  simp [closeKv, Kv.Server.closeOn, Kv.Server.close, Kv.Server.closeBut, Listener.close, running, Host.afterClose,
    Except.mapError, Listener.endpoint]

theorem closeHttp_of_running (host : Host) (node : NodeId) {listener : Listener} (running : listener.running = true) :
    closeHttp host node (some listener) = (.ok (), host.release listener.endpoint) := by
  simp [closeHttp, Host.close, Listener.close, running, Host.afterClose, Except.mapError, Listener.endpoint]

theorem closeNode_of_running (host : Host) {s : NodeServers K} (running : ∀ x ∈ s.opened, x.listener.running = true) :
    closeNode host s = (.ok (), (s.opened.map (·.listener.endpoint)).foldl Host.release host) := by
  obtain ⟨node, kv, http⟩ := s
  have first : closeKv host node kv =
      (.ok (), ((NodeServers.opened ⟨node, kv, none⟩).map (·.listener.endpoint)).foldl Host.release host) := by
    cases kv with
    | none => rfl
    | some server =>
      exact closeKv_of_running host node (running ⟨node, .kv, server.listener⟩ (by simp [NodeServers.opened]))
  rw [closeNode, first]
  cases http with
  | none => rfl
  | some listener =>
    have open_ := running ⟨node, .mgmt, listener⟩ (by simp)
    rw [NodeServers.opened_http, List.map_append, List.foldl_append]
    exact closeHttp_of_running _ node open_

theorem closeAll_of_running (host : Host) {servers : List (NodeServers K)}
    (running : ∀ x ∈ servers.flatMap NodeServers.opened, x.listener.running = true) :
    closeAll host servers =
      (.ok (), ((servers.flatMap NodeServers.opened).map (·.listener.endpoint)).foldl Host.release host) := by
  induction servers generalizing host with
  | nil => rfl
  | cons s rest ih =>
    rw [List.flatMap_cons, List.forall_mem_append] at running
    rw [closeAll, closeNode_of_running host running.1, List.flatMap_cons, List.map_append, List.foldl_append]
    exact ih _ running.2

/-- **Stopping.** Every listener is closed, and what others hold they keep. -/
theorem Holds.stop_eq {others : List Endpoint} {host : Host} {d : Deployment K R M} (holds : Holds others host d) :
    d.stop host = (.ok (), { host with held := others }, { d with servers := [] }) := by
  obtain ⟨own, same, held⟩ := holds.held
  rw [stop, closeAll_of_running host holds.running]
  exact congrArg (fun left : Host => (Except.ok (), left, { d with servers := [] })) (Host.foldl_release held same)

end Stop

section Start

variable {host : Host} {d : Deployment K R M} {s : Settings} {address : IpAddress} {planned : List Opening}

/-- The deployment is one of valid settings, in whatever state. -/
structure MadeOf (s : Settings) (d : Deployment K R M) : Prop where
  valid : s.Valid
  settings : d.settings = s
  nodes : d.nodes = List.range s.nodes.length

theorem isRunning_eq_false_iff : d.isRunning = false ↔ d.servers = [] := by
  simp [isRunning]

theorem Opens.holds {now : Host × Deployment K R M} (opens : Opens (host, d) address planned now) :
    Holds host.held now.1 now.2 where
  running := opens.running
  held := ⟨_, List.reverse_perm _, congrArg Host.held opens.host⟩

theorem Opens.madeOf {now : Host × Deployment K R M} (opens : Opens (host, d) address planned now) (made : d.MadeOf s) :
    now.2.MadeOf s where
  valid := made.valid
  settings := (congrArg Deployment.settings opens.rest).trans made.settings
  nodes := (congrArg Deployment.nodes opens.rest).trans made.nodes

theorem opened_of_not_running (stopped : d.isRunning = false) : d.opened = [] := by
  rw [opened, isRunning_eq_false_iff.1 stopped]
  rfl

/-- Before anything is opened. -/
theorem reached_nil (host : Host) (address : IpAddress) (stopped : d.isRunning = false) :
    Reached (host, d) address [] (host, d) := by
  refine ⟨⟨?_, ?_, rfl, ?_, fun _ => rfl, rfl⟩, ?_⟩ <;> simp [opened_of_not_running stopped]

/-- The servers of all nodes are started, one node after another. -/
def launchOf (s : Settings) (address : IpAddress) : Launch K R M Unit :=
  Launch.startNodes address 0 ((List.range s.nodes.length).zip s.nodes)

theorem MadeOf.start_of_run_ok (made : d.MadeOf s) (stopped : d.isRunning = false)
    (bound : s.bindAddress = .ok address) {now : Host × Deployment K R M}
    (run : (launchOf s address).run (host, d) = .ok () now) : d.start host = (.ok (), now) := by
  unfold launchOf at run
  rw [start, stopped, if_neg Bool.false_ne_true, made.settings, made.nodes, bound]
  simp only [run]

theorem MadeOf.start_of_run_error (made : d.MadeOf s) (stopped : d.isRunning = false)
    (bound : s.bindAddress = .ok address) {fault : StartFault} {now : Host × Deployment K R M}
    (run : (launchOf s address).run (host, d) = .error fault now) :
    d.start host = (.error fault, (now.2.stop now.1).2) := by
  unfold launchOf at run
  rw [start, stopped, if_neg Bool.false_ne_true, made.settings, made.nodes, bound]
  simp only [run]

/-- **Starting.** Either the whole plan is carried out. Or there is a reason why not, and then what was opened is closed
again, and the host is as it was. -/
theorem MadeOf.start_cases (made : d.MadeOf s) (stopped : d.isRunning = false) (bound : s.bindAddress = .ok address)
    (host : Host) :
    (∃ now : Host × Deployment K R M, d.start host = (.ok (), now) ∧ Reached (host, d) address s.openings now ∧
      now.2.servers.map (·.node) = List.range s.nodes.length) ∨
    ∃ fault now, d.start host = (.error fault, host, { now.2 with servers := [] }) ∧
      Failed (host, d) address s.openings fault now := by
  have none : d.servers = [] := isRunning_eq_false_iff.1 stopped
  have places : ((List.range s.nodes.length).zip s.nodes).map (·.1) = List.range s.nodes.length :=
    List.map_fst_zip (Nat.le_of_eq List.length_range)
  have distinct : (d.servers.map (·.node) ++ ((List.range s.nodes.length).zip s.nodes).map (·.1)).Nodup := by
    rw [none, places]
    exact List.nodup_range
  have ends : (launchOf s address).Ends (host, d) _ _ :=
    Launch.ends_startNodes 0 (reached_nil host address stopped) distinct
  rw [Launch.Ends, made.settings] at ends
  cases run : (launchOf s address).run (host, d) with
  | ok _ now =>
    rw [run] at ends
    obtain ⟨reached, servers⟩ := ends
    rw [none, places] at servers
    exact .inl ⟨now, made.start_of_run_ok stopped bound run, reached, servers⟩
  | error fault now =>
    rw [run] at ends
    obtain ⟨done, opens⟩ := Failed.exists_opens ends
    have back : ({ now.1 with held := host.held } : Host) = host := by
      rw [opens.host]
    refine .inr ⟨fault, now, ?_, ends⟩
    rw [made.start_of_run_error stopped bound run, opens.holds.stop_eq, back]

/-- **When a start succeeds.** The host has to grant what is asked for, and the nodes have to be there. -/
theorem MadeOf.start_ok_iff (made : d.MadeOf s) (stopped : d.isRunning = false) (bound : s.bindAddress = .ok address)
    (host : Host) : (d.start host).1 = .ok () ↔
      (∃ last, host.takeAll (s.openings.map (·.request address)) = .ok last) ∧
        ∀ o ∈ s.openings, (d.shared.topology.node? o.node).isSome := by
  constructor
  · intro started
    rcases made.start_cases stopped bound host with ⟨now, -, reached, -⟩ | ⟨fault, now, failed, -⟩
    · refine ⟨⟨now.1, reached.granted⟩, fun o ho => ?_⟩
      have listed : o.server ∈ now.2.opened.map Opened.server := reached.servers ▸ List.mem_map_of_mem ho
      obtain ⟨x, hx, same⟩ := List.mem_map.1 listed
      obtain ⟨node, found, -⟩ := Option.bind_eq_some_iff.1 (reached.named x hx)
      have node_eq : x.node = o.node := congrArg Prod.fst same
      rw [← reached.nodes o.node, ← node_eq, found]
      rfl
    · rw [failed] at started
      cases started
  · rintro ⟨⟨last, granted⟩, there⟩
    rcases made.start_cases stopped bound host with ⟨now, started, -⟩ | ⟨fault, now, -, failed⟩
    · rw [started]
    · exfalso
      cases failed with
      | @refused done o _ reason next opens refused =>
        obtain ⟨earlier, granted⟩ := Host.takeAll_prefix (next.map (·.request address)) granted
        rw [List.map_append, List.map_singleton, Host.takeAll_concat_of_ok opens.granted, Host.take, refused] at granted
        cases granted
      | @missing done o _ next opens absent =>
        have present := there o (next.subset (List.mem_append_right done List.mem_cons_self))
        rw [absent] at present
        cases present

end Start

section Ports

variable {d : Deployment K R M} {id : NodeId} {port : UInt16}

theorem serversOf_eq_some_iff (distinct : (d.servers.map (·.node)).Nodup) {s : NodeServers K} :
    d.serversOf id = some s ↔ s ∈ d.servers ∧ s.node = id := by
  constructor
  · intro found
    exact ⟨List.mem_of_find?_eq_some found, by simpa using List.find?_some found⟩
  · rintro ⟨mem, rfl⟩
    have some : (d.serversOf s.node).isSome := List.find?_isSome.2 ⟨s, mem, by simp⟩
    obtain ⟨s', found⟩ := Option.isSome_iff_exists.1 some
    have same : s'.node = s.node := by simpa using List.find?_some found
    rw [found, List.inj_on_of_nodup_map distinct (List.mem_of_find?_eq_some found) mem same]

/-- The port of a service of a node. -/
def port? (d : Deployment K R M) (id : NodeId) (service : Service) : Option UInt16 :=
  ((d.serversOf id).bind (·.listener? service)).map (·.port)

theorem port?_kv (d : Deployment K R M) (id : NodeId) : d.port? id .kv = d.kvPort? id := by
  rw [port?, kvPort?, kvServer?]
  cases d.serversOf id with
  | none => rfl
  | some s => exact Option.map_map ..

theorem port?_mgmt (d : Deployment K R M) (id : NodeId) : d.port? id .mgmt = d.httpPort? id := rfl

theorem port?_eq_some_iff (distinct : (d.servers.map (·.node)).Nodup) {service : Service} :
    d.port? id service = some port ↔ ∃ x ∈ d.opened, x.server = (id, service) ∧ x.listener.port = port := by
  simp only [port?, Option.map_eq_some_iff, Option.bind_eq_some_iff, serversOf_eq_some_iff distinct]
  constructor
  · rintro ⟨listener, ⟨s, ⟨mem, rfl⟩, found⟩, rfl⟩
    have opened : ⟨s.node, service, listener⟩ ∈ s.opened := NodeServers.mem_opened_iff.2 ⟨rfl, found⟩
    exact ⟨_, List.mem_flatMap.2 ⟨s, mem, opened⟩, rfl, rfl⟩
  · rintro ⟨x, hx, ⟨⟩, rfl⟩
    obtain ⟨s, mem, hx⟩ := List.mem_flatMap.1 hx
    obtain ⟨same, found⟩ := NodeServers.mem_opened_iff.1 hx
    exact ⟨x.listener, ⟨s, ⟨mem, same.symm⟩, found⟩, rfl⟩

theorem isSome_port?_iff (distinct : (d.servers.map (·.node)).Nodup) {service : Service} :
    (d.port? id service).isSome ↔ (id, service) ∈ d.opened.map Opened.server := by
  rw [Option.isSome_iff_exists, List.mem_map]
  simp only [port?_eq_some_iff distinct]
  constructor
  · rintro ⟨_, x, hx, same, -⟩
    exact ⟨x, hx, same⟩
  · rintro ⟨x, hx, same⟩
    exact ⟨x.listener.port, x, hx, same, rfl⟩

/-- A deployment runs as its settings say: a node has a port for documents, and one for administration, if and only if
it is to run that service, and the topology names these ports. -/
structure Up (s : Settings) (d : Deployment K R M) : Prop where
  running : d.isRunning = true
  kvPort : ∀ id, (d.kvPort? id).isSome ↔ ∃ n, s.nodes[id]? = some n ∧ Service.kv ∈ n.services
  httpPort : ∀ id, (d.httpPort? id).isSome ↔ ∃ n, s.nodes[id]? = some n ∧ Service.mgmt ∈ n.services
  kvNamed : ∀ id port, d.kvPort? id = some port → d.shared.topology.port? id .kv = some port
  httpNamed : ∀ id port, d.httpPort? id = some port → d.shared.topology.port? id .mgmt = some port

theorem mem_server_openings_iff {s : Settings} {service : Service} (served : service = .kv ∨ service = .mgmt) :
    (id, service) ∈ s.openings.map Opening.server ↔ ∃ n, s.nodes[id]? = some n ∧ service ∈ n.services := by
  simp only [List.mem_map, Settings.mem_openings_iff]
  constructor
  · rintro ⟨_, ⟨id', n, found, ⟨runs, rfl⟩ | ⟨runs, rfl⟩⟩, ⟨⟩⟩
    · exact ⟨n, found, runs⟩
    · exact ⟨n, found, runs⟩
  · rintro ⟨n, found, runs⟩
    rcases served with rfl | rfl
    · exact ⟨_, ⟨id, n, found, .inl ⟨runs, rfl⟩⟩, rfl⟩
    · exact ⟨_, ⟨id, n, found, .inr ⟨runs, rfl⟩⟩, rfl⟩

/-- A plan that is carried out brings the deployment up. -/
theorem Reached.up {first now : Host × Deployment K R M} {address : IpAddress} {s : Settings}
    (reached : Reached first address s.openings now) (valid : s.Valid)
    (servers : now.2.servers.map (·.node) = List.range s.nodes.length) : now.2.Up s := by
  have distinct : (now.2.servers.map (·.node)).Nodup := servers ▸ List.nodup_range
  have named (id : NodeId) (service : Service) (port : UInt16) (given : now.2.port? id service = some port) :
      now.2.shared.topology.port? id service = some port := by
    obtain ⟨x, hx, ⟨⟩, rfl⟩ := (port?_eq_some_iff distinct).1 given
    exact reached.named x hx
  refine ⟨?_, fun id => ?_, fun id => ?_, fun id port given => ?_, fun id port given => named id .mgmt port given⟩
  · obtain ⟨n, hn, -⟩ := valid.holder
    have some : s.nodes.length ≠ 0 := Nat.ne_of_gt (List.length_pos_of_mem hn)
    have count := congrArg List.length servers
    rw [List.length_map, List.length_range] at count
    rw [isRunning, Bool.not_eq_true', List.isEmpty_eq_false_iff]
    rintro none
    exact some (by rw [← count, none]; rfl)
  · rw [← port?_kv, isSome_port?_iff distinct, reached.servers]
    exact mem_server_openings_iff (.inl rfl)
  · rw [← port?_mgmt, isSome_port?_iff distinct, reached.servers]
    exact mem_server_openings_iff (.inr rfl)
  · rw [← port?_kv] at given
    exact named id .kv port given

end Ports

section Course

variable {service : Kv.Builtin → K} {route : Http.Builtin → R} {memory : M} {s : Settings} {others : List Endpoint}
  {host : Host} {d : Deployment K R M}

/-- What can become of a deployment: it is made of settings on a host where others hold some endpoints; then it is
started and stopped, whatever comes of it, the topology is edited, and what the host grants changes, in any order. -/
inductive Course (service : Kv.Builtin → K) (route : Http.Builtin → R) (memory : M) (s : Settings)
    (others : List Endpoint) : Host → Deployment K R M → Prop
  | create {host : Host} {d : Deployment K R M} (held : host.held = others)
      (created : Deployment.create service route memory s = .ok d) : Course service route memory s others host d
  | start {host : Host} {d : Deployment K R M} (before : Course service route memory s others host d) :
      Course service route memory s others (d.start host).2.1 (d.start host).2.2
  | stop {host : Host} {d : Deployment K R M} (before : Course service route memory s others host d) :
      Course service route memory s others (d.stop host).2.1 (d.stop host).2.2
  | edit {host : Host} {d : Deployment K R M} {α : Type} (before : Course service route memory s others host d)
      (edit : Topology.Edit α) : Course service route memory s others host
        { d with shared := { d.shared with topology := (d.shared.topology.update edit).2 } }
  | regrant {host : Host} {d : Deployment K R M} (before : Course service route memory s others host d)
      (grant : List Endpoint → Endpoint → Except String UInt16) :
      Course service route memory s others { host with grant } d

/-- A deployment that was just made is one of its settings, and it is not running. -/
theorem madeOf_create (created : create service route memory s = .ok d) : d.MadeOf s ∧ d.isRunning = false := by
  cases valid : s.validate with
  | error f => simp [create, valid, bind, Except.bind, Except.mapError] at created
  | ok =>
    have valid' := Settings.validate_eq_ok_iff.1 valid
    have run := Assembly.run_ofSettings valid'
    simp only [create, valid, run, bind, Except.bind, Except.mapError, pure, Except.pure, Except.ok.injEq] at created
    subst created
    exact ⟨⟨valid', rfl, rfl⟩, rfl⟩

theorem holds_of_not_running (stopped : d.isRunning = false) (held : host.held = others) : Holds others host d := by
  refine ⟨?_, [], ?_, held⟩ <;> simp [opened_of_not_running stopped]

theorem Holds.held_of_not_running (holds : Holds others host d) (stopped : d.isRunning = false) :
    host.held = others := by
  obtain ⟨own, same, held⟩ := holds.held
  rw [opened_of_not_running stopped] at same
  rw [held, same.eq_nil, List.nil_append]

theorem start_of_running (running : d.isRunning = true) : d.start host = (.error .alreadyStarted, host, d) := by
  rw [start, if_pos running]

/-- What is kept: the deployment stays one of its settings, and its listeners are accounted for. -/
theorem Course.kept (course : Course service route memory s others host d) : d.MadeOf s ∧ Holds others host d := by
  induction course with
  | create held created =>
    obtain ⟨made, stopped⟩ := madeOf_create created
    exact ⟨made, holds_of_not_running stopped held⟩
  | @start host d before ih =>
    obtain ⟨made, holds⟩ := ih
    cases running : d.isRunning with
    | true =>
      rw [start_of_running running]
      exact ⟨made, holds⟩
    | false =>
      have held := holds.held_of_not_running running
      obtain ⟨address, bound⟩ := made.valid.exists_bindAddress
      rcases made.start_cases running bound host with ⟨now, started, reached, -⟩ | ⟨fault, now, failed, reason⟩
      · rw [started, ← held]
        exact ⟨reached.toOpens.madeOf made, reached.toOpens.holds⟩
      · obtain ⟨done, opens⟩ := reason.exists_opens
        obtain ⟨valid, settings, nodes⟩ := opens.madeOf made
        rw [failed]
        exact ⟨⟨valid, settings, nodes⟩, holds_of_not_running rfl held⟩
  | stop before ih =>
    obtain ⟨made, holds⟩ := ih
    rw [holds.stop_eq]
    exact ⟨⟨made.valid, made.settings, made.nodes⟩, holds_of_not_running rfl rfl⟩
  | edit before edit ih => exact ⟨⟨ih.1.valid, ih.1.settings, ih.1.nodes⟩, ih.2.running, ih.2.held⟩
  | regrant before grant ih => exact ⟨ih.1, ih.2.running, ih.2.held⟩

/-- Nothing stands in the way of a start: the host grants one request after another, and the nodes that get servers are
part of the cluster. -/
structure CanStart (s : Settings) (host : Host) (t : Topology) : Prop where
  granted : ∃ address last, s.bindAddress = .ok address ∧
    host.takeAll (s.openings.map (·.request address)) = .ok last
  intact : ∀ id n, s.nodes[id]? = some n → Service.kv ∈ n.services ∨ Service.mgmt ∈ n.services → (t.node? id).isSome

theorem MadeOf.start_ok_iff_canStart (made : d.MadeOf s) (stopped : d.isRunning = false) :
    (d.start host).1 = .ok () ↔ CanStart s host d.shared.topology := by
  obtain ⟨address, bound⟩ := made.valid.exists_bindAddress
  rw [made.start_ok_iff stopped bound host]
  constructor
  · rintro ⟨⟨last, granted⟩, there⟩
    refine ⟨⟨address, last, bound, granted⟩, fun id n found runs => ?_⟩
    rcases runs with runs | runs
    · exact there _ (Settings.mem_openings_iff.2 ⟨id, n, found, .inl ⟨runs, rfl⟩⟩)
    · exact there _ (Settings.mem_openings_iff.2 ⟨id, n, found, .inr ⟨runs, rfl⟩⟩)
  · rintro ⟨⟨address', last, bound', granted⟩, intact⟩
    obtain rfl := Except.ok.inj (bound.symm.trans bound')
    refine ⟨⟨last, granted⟩, fun o ho => ?_⟩
    obtain ⟨id, n, found, ⟨runs, rfl⟩ | ⟨runs, rfl⟩⟩ := Settings.mem_openings_iff.1 ho
    · exact intact id n found (.inl runs)
    · exact intact id n found (.inr runs)

/-- **Starting and stopping, whatever happened before.** A running deployment is not started again: nothing changes. One
that is not running has nothing open. It can be started if and only if nothing stands in the way. If the start fails, at
whatever point, then the deployment is not running afterwards, nothing is open, and the cluster has the nodes that it
had. If it succeeds, the deployment runs as its settings say, with its listeners open. Stopping never fails, and closes
everything. -/
theorem lifecycle (course : Course service route memory s others host d) :
    (d.isRunning = true → d.start host = (.error .alreadyStarted, host, d)) ∧
    (d.isRunning = false → host.held = others ∧
      ((d.start host).1 = .ok () ↔ CanStart s host d.shared.topology) ∧
      ∀ fault host' d', d.start host = (.error fault, host', d') → d'.isRunning = false ∧ host' = host ∧
        ∀ id, (d'.shared.topology.node? id).isSome = (d.shared.topology.node? id).isSome) ∧
    (∀ host' d', d.start host = (.ok (), host', d') → d'.Up s ∧ Holds others host' d') ∧
    d.stop host = (.ok (), { host with held := others }, { d with servers := [] }) := by
  obtain ⟨made, holds⟩ := course.kept
  refine ⟨start_of_running, fun stopped => ?_, fun host' d' started => ?_, holds.stop_eq⟩
  · obtain ⟨address, bound⟩ := made.valid.exists_bindAddress
    refine ⟨holds.held_of_not_running stopped, made.start_ok_iff_canStart stopped, fun fault host' d' failed => ?_⟩
    rcases made.start_cases stopped bound host with ⟨now, started, -⟩ | ⟨fault', now, failed', reason⟩
    · rw [started] at failed
      cases failed
    · rw [failed'] at failed
      cases failed
      obtain ⟨done, opens⟩ := reason.exists_opens
      exact ⟨rfl, rfl, opens.nodes⟩
  · cases running : d.isRunning with
    | true =>
      rw [start_of_running running] at started
      cases started
    | false =>
      obtain ⟨address, bound⟩ := made.valid.exists_bindAddress
      rcases made.start_cases running bound host with ⟨now, started', reached, servers⟩ | ⟨fault', now, failed, -⟩
      · rw [started'] at started
        cases started
        have left := reached.toOpens.holds
        rw [holds.held_of_not_running running] at left
        exact ⟨reached.up made.valid servers, left⟩
      · rw [failed] at started
        cases started

/-- The host refuses the second of two requests, so the first listener is closed again. Later it grants both. -/
theorem lifecycle_refused :
    let s : Settings := { Settings.standard with
      listeners := ⟨"127.0.0.1", some 9000, some 9100⟩
      nodes := [.standard]
      buckets := [] }
    let busy : Host := { Host.idle false with
      grant := fun held endpoint => if endpoint.port = 9100 then .error "" else Host.grantFree held endpoint }
    ∃ d : Deployment Unit Unit Unit, create (fun _ => ()) (fun _ => ()) () s = .ok d ∧
      let first := d.start busy
      first.2.2.isRunning = false ∧ first.2.1 = busy ∧
      let second := first.2.2.start (Host.idle false)
      second.1 = .ok () ∧ second.2.2.Up s ∧ Holds [] second.2.1 second.2.2 := by
  intro s busy
  have valid : s.validate = .ok () := by decide +kernel
  obtain ⟨d, created, -, -, topology⟩ := exists_create (M := Unit) (fun _ => ()) (fun _ => ()) () valid
  have openings : s.openings = [⟨0, .kv, 9000⟩, ⟨0, .mgmt, 9100⟩] := by decide +kernel
  have begun : Course _ _ () s [] busy d := .create rfl created
  obtain ⟨-, able, fails⟩ := (lifecycle begun).2.1 (madeOf_create created).2
  have hindered : (d.start busy).1 ≠ .ok () := by
    intro started
    obtain ⟨address, last, -, granted⟩ := (able.1 started).granted
    rw [openings] at granted
    simp [busy, Host.takeAll, Host.take, Host.bind, Host.hold, Host.idle, Host.grantFree, Opening.request, Except.map,
      bind, Except.bind] at granted
  rcases run : d.start busy with ⟨result, host, d'⟩
  cases result with
  | ok => exact absurd (congrArg Prod.fst run) hindered
  | error fault =>
    obtain ⟨stopped, rfl, nodes⟩ := fails fault host d' run
    have again : Course (fun _ => ()) (fun _ => ()) () s [] (Host.idle false) d' := by
      have later := Course.regrant (.start begun) Host.grantFree
      rw [run] at later
      exact later
    have can : CanStart s (Host.idle false) d'.shared.topology := by
      constructor
      · obtain ⟨address, bound⟩ := (Settings.validate_eq_ok_iff.1 valid).exists_bindAddress
        obtain ⟨last, granted⟩ : ∃ last, (Host.idle false).takeAll (s.openings.map (·.request address)) = .ok last := by
          rw [openings, Host.exists_takeAll_grantFree_iff rfl (by simp [Opening.request])]
          simp [Opening.request, Host.idle]
        exact ⟨address, last, bound, granted⟩
      · intro id n found _
        obtain rfl : id = 0 := by simpa [s] using (List.getElem?_eq_some_iff.1 found).1
        rw [nodes, topology]
        decide +kernel
    obtain ⟨-, free, up, -⟩ := lifecycle again
    have started := (free stopped).2.1.2 can
    refine ⟨d, created, ?_⟩
    rw [run]
    refine ⟨stopped, rfl, started, up _ _ ?_⟩
    rw [← started]

end Course

end Deployment

end MockCluster
