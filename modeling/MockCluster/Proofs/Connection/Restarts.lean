import MockCluster.Kv.Script
import MockCluster.Kv.Server
import MockCluster.Proofs.Connection.Chunks

/-!
# Servers over restarts

A server may be started and closed any number of times. Its listener comes and goes, but its port, its connection
numbers and its counters go on.

| call | if the server is running | if it is not |
| --- | --- | --- |
| start | refused | it gets a port, or the reason why not |
| close | every connection ends, at once or when it has done what it is at | refused |

A call that fails changes nothing, and a port that a start got is the one that every later start asks for
(`TakesCalls`). For the counters there is an account (`Hub.Accounts`): every connection that was ever accepted is known
by its number, and counts as active until it ends, also if its server has been closed and started again by then.
`restarts` says so for both kinds of servers, over all their runs.
-/

namespace MockCluster

/-- A machine on which whoever asks for a certain port gets that one or none, and where no listener has port 0. -/
structure KeepsPorts (bind : Endpoint → Except String UInt16) : Prop where
  asked : ∀ endpoint port, bind endpoint = .ok port → endpoint.port ≠ 0 → port = endpoint.port
  given : ∀ endpoint port, bind endpoint = .ok port → port ≠ 0

/-- How a server takes calls in a state `s`. `Later` says which states it may be in afterwards. -/
structure TakesCalls {σ : Type} (listener : σ → Listener)
    (start : (Endpoint → Except String UInt16) → σ → Except Fault Unit × σ) (close : σ → Except Fault Unit × σ)
    (Later : σ → σ → Prop) (s : σ) : Prop where
  /-- Starting is refused if and only if the server is running. -/
  startRefused : ∀ bind service, (start bind s).1 = .error (.alreadyRunning service) ↔
    (listener s).running = true ∧ service = (listener s).service
  /-- Closing is refused if and only if the server is not running. -/
  closeRefused : ∀ service, (close s).1 = .error (.serverClosed service) ↔
    (listener s).running = false ∧ service = (listener s).service
  /-- A start that fails, for whatever reason, changes nothing. -/
  startFailed : ∀ bind fault, (start bind s).1 = .error fault → (start bind s).2 = s
  closeFailed : ∀ fault, (close s).1 = .error fault → (close s).2 = s
  /-- From a successful start on the port stays. -/
  portKept : ∀ bind, KeepsPorts bind → (start bind s).1 = .ok () → ∀ s', Later (start bind s).2 s' →
    (listener s').port = (listener (start bind s).2).port

theorem Host.keepsPorts_grantFree (held : List Endpoint) : KeepsPorts (grantFree held) where
  asked endpoint port granted certain := ((grantFree_eq_ok_iff certain).1 granted).2.symm
  given endpoint port granted := by
    by_cases any : endpoint.port = 0
    · rw [grantFree, if_pos any] at granted
      cases found : freePorts.find? fun port => { endpoint with port } ∉ held with
      | none =>
        rw [found] at granted
        cases granted
      | some free =>
        rw [found] at granted
        cases granted
        obtain ⟨n, hn, rfl⟩ := List.mem_map.1 (List.mem_of_find?_eq_some found)
        rw [List.mem_range'_1] at hn
        have fits : n < 65536 := by omega
        rw [Ne, ← UInt16.toNat_inj, UInt16.toNat_ofNat_of_lt' fits]
        exact Nat.ne_of_gt (Nat.lt_of_lt_of_le (by decide) hn.1)
    · rw [← ((grantFree_eq_ok_iff any).1 granted).2]
      exact any

namespace Listener

variable {bind : Endpoint → Except String UInt16} {l l' : Listener}

/-- Everything that a start can do. -/
theorem start_cases (bind : Endpoint → Except String UInt16) (l : Listener) :
    (l.running = true ∧ l.start bind = (.error (.alreadyRunning l.service), l)) ∨
    (l.running = false ∧ ∃ reason, l.start bind = (.error (.bind l.endpoint reason), l)) ∨
    (l.running = false ∧ ∃ port, bind l.endpoint = .ok port ∧
      l.start bind = (.ok (), { l with port, running := true })) := by
  cases running : l.running with
  | true => exact .inl ⟨rfl, start_of_running running⟩
  | false =>
    cases answer : bind l.endpoint with
    | error reason => exact .inr (.inl ⟨rfl, reason, by simp [start, running, answer]⟩)
    | ok port => exact .inr (.inr ⟨rfl, port, rfl, by simp [start, running, answer]⟩)

/-- Everything that closing can do. -/
theorem close_cases (l : Listener) :
    (l.running = true ∧ l.close = (.ok (), { l with running := false })) ∨
    (l.running = false ∧ l.close = (.error (.serverClosed l.service), l)) := by
  cases running : l.running with
  | true => exact .inl ⟨rfl, by simp [close, running]⟩
  | false => exact .inr ⟨rfl, close_of_not_running running⟩

/-- The calls of a listener, whatever comes of them, on a machine whose answers may differ each time. -/
inductive Run (l : Listener) : Listener → Prop
  | nothing : Run l l
  | start {now : Listener} (before : Run l now) {bind : Endpoint → Except String UInt16} (keeps : KeepsPorts bind) :
      Run l (now.start bind).2
  | close {now : Listener} (before : Run l now) : Run l now.close.2

/-- Whoever has a port keeps it. -/
theorem Run.port_eq (run : l.Run l') (certain : l.port ≠ 0) : l'.port = l.port := by
  induction run with
  | nothing => rfl
  | @start now _ bind keeps ih =>
    rcases start_cases bind now with ⟨-, he⟩ | ⟨-, reason, he⟩ | ⟨-, port, granted, he⟩
    · rw [he, ih]
    · rw [he, ih]
    · rw [he]
      rw [← ih] at certain
      exact (keeps.asked _ _ granted certain).trans ih
  | @close now _ ih =>
    rcases close_cases now with ⟨-, he⟩ | ⟨-, he⟩
    · rw [he]
      exact ih
    · rw [he, ih]

/-- A listener takes calls as a server does. -/
theorem takesCalls (l : Listener) : TakesCalls id start close Run l where
  startRefused bind service := by
    rcases start_cases bind l with ⟨running, he⟩ | ⟨running, reason, he⟩ | ⟨running, port, -, he⟩ <;>
      simp [he, running, eq_comm]
  closeRefused service := by
    rcases close_cases l with ⟨running, he⟩ | ⟨running, he⟩ <;> simp [he, running, eq_comm]
  startFailed bind fault failed := by
    rcases start_cases bind l with ⟨-, he⟩ | ⟨-, reason, he⟩ | ⟨-, port, -, he⟩
    · rw [he]
    · rw [he]
    · rw [he] at failed
      cases failed
  closeFailed fault failed := by
    rcases close_cases l with ⟨-, he⟩ | ⟨-, he⟩
    · rw [he] at failed
      cases failed
    · rw [he]
  portKept bind keeps started l' run := by
    refine run.port_eq ?_
    rcases start_cases bind l with ⟨-, he⟩ | ⟨-, reason, he⟩ | ⟨-, port, granted, he⟩
    · rw [he] at started
      cases started
    · rw [he] at started
      cases started
    · rw [he]
      exact keeps.given _ _ granted

end Listener

namespace Kv

variable {H M : Type} {behaviour : Behaviour H M}

section Counts

/-- What a connection adds to the counter of active ones. -/
def Connection.load (c : Connection H) : Nat := if c.ended then 0 else 1

/-- The counters of a server, seen from one of its connections: besides it, there are `others` active ones. -/
structure Counts (accepted others : Nat) (metrics : Metrics) (c : Connection H) : Prop where
  accepted : metrics.accepted = accepted
  active : metrics.active = others + c.load

variable {accepted others : Nat} {metrics : Metrics} {c : Connection H} {s : Session H M}

/-- A connection that ends is taken off the counter, which counted it. -/
theorem Counts.finish (h : Counts accepted others metrics c) (open_ : c.ended = false) :
    Counts accepted others metrics.finish { c with waiting := none } := by
  obtain ⟨total, active⟩ := h
  refine ⟨total, ?_⟩
  simp [Connection.load, open_] at active
  simp [Metrics.finish, Connection.load, Connection.ended, active]

namespace Session

/-- The counters of a server, seen from a session. -/
abbrev Counts (accepted others : Nat) (s : Session H M) : Prop := Kv.Counts accepted others s.metrics s.connection

theorem Counts.finish (h : s.Counts accepted others) : s.finish.Counts accepted others := by
  unfold Session.finish
  cases hw : s.connection.waiting with
  | none => exact h
  | some buffer => exact Kv.Counts.finish h (by simp [Connection.ended, hw])

/-- Answering a frame leaves the connection as open as it was, and it is counted as such. -/
theorem Counts.answer (h : s.Counts accepted others) (behaviour : Behaviour H M) (frame : Frame) :
    (s.answer behaviour frame).2.Counts accepted others := by
  have total : (s.answer behaviour frame).2.metrics.accepted = s.metrics.accepted := by
    unfold Session.answer answerRequest conclude
    grind [Metrics.countHandled, Metrics.countUnhandled]
  have active : (s.answer behaviour frame).2.metrics.active = s.metrics.active := by
    unfold Session.answer answerRequest conclude
    grind [Metrics.countHandled, Metrics.countUnhandled]
  refine ⟨total.trans h.accepted, ?_⟩
  rw [active, h.active, Connection.load, Connection.load, Connection.ended, Connection.ended, waiting_answer]

theorem Counts.drain (h : s.Counts accepted others) (open_ : s.connection.waiting ≠ none) (buffer : Bytes) :
    (s.drain behaviour buffer).2.Counts accepted others := by
  induction s, buffer using drain.induct behaviour with
  | case1 s buffer hd =>
    rw [drain_incomplete hd]
    obtain ⟨total, active⟩ := h
    obtain ⟨held, hw⟩ := Option.ne_none_iff_exists'.1 open_
    refine ⟨total, ?_⟩
    simpa [await, Connection.load, Connection.ended, hw] using active
  | case2 s buffer fault hd =>
    rw [drain_invalid hd]
    exact h.finish
  | case3 s buffer frame size hd next ha =>
    rw [drain_end hd ha]
    have answered := h.answer behaviour frame
    rw [ha] at answered
    exact answered.finish
  | case4 s buffer frame size hd sent next ha _ _ _ ih =>
    rw [drain_step hd ha]
    have answered := h.answer behaviour frame
    rw [ha] at answered
    exact ih answered (waiting_of_answer ha open_)

/-- Whatever a connection receives, it is counted as long as it has not ended. -/
theorem Counts.receive (h : s.Counts accepted others) (data : Bytes) :
    (s.receive behaviour data).2.Counts accepted others := by
  cases hw : s.connection.waiting with
  | none =>
    rw [receive_of_ended hw]
    exact h
  | some buffer =>
    simp only [Session.receive, hw]
    exact h.drain (by simp [hw]) _

end Session

end Counts

namespace Hub

/-- The connections of a hub are accounted for: they are the accepted ones in order, under ascending numbers that will
not be given again, and the counters say how many there were and how many have not ended. -/
structure Accounts (accepted : List ConnectionId) (hub : Hub H) : Prop where
  numbers : hub.connections.map (·.1) = accepted
  ascending : accepted.Pairwise (· < ·)
  given : ∀ id ∈ accepted, id < hub.nextId
  total : hub.metrics.accepted = accepted.length
  active : hub.metrics.active = hub.connections.countP fun entry => !entry.2.ended

variable {accepted : List ConnectionId} {hub : Hub H} {id : ConnectionId} {c c' : Connection H} {metrics : Metrics}

theorem accounts_create : (create : Hub H).Accounts [] where
  numbers := rfl
  ascending := .nil
  given := nofun
  total := rfl
  active := rfl

/-- A connection has one place among the connections. -/
theorem Accounts.exists_split (h : hub.Accounts accepted) (found : hub.connection? id = some c) :
    ∃ before behind, hub.connections = before ++ (id, c) :: behind ∧
      ∀ c', (hub.replace id c').connections = before ++ (id, c') :: behind := by
  obtain ⟨entry, he, rfl⟩ := Option.map_eq_some_iff.1 found
  obtain ⟨hit, before, behind, whole, first⟩ := List.find?_eq_some_iff_append.1 he
  obtain rfl : entry.1 = id := by simpa using hit
  refine ⟨before, behind, whole, fun c' => ?_⟩
  have ascending := h.ascending
  rw [← h.numbers, whole, List.pairwise_map, List.pairwise_append, List.pairwise_cons] at ascending
  obtain ⟨-, ⟨later, -⟩, -⟩ := ascending
  have beforeSame : before.map (fun e => if e.1 = entry.1 then (entry.1, c') else e) = before := by
    refine (List.map_congr_left fun e he => ?_).trans (List.map_id _)
    rw [if_neg (by simpa using first e he), id]
  have behindSame : behind.map (fun e => if e.1 = entry.1 then (entry.1, c') else e) = behind := by
    refine (List.map_congr_left fun e he => ?_).trans (List.map_id _)
    rw [if_neg (Nat.ne_of_gt (later e he)), id]
  rw [replace, whole, List.map_append, List.map_cons, beforeSame, behindSame, if_pos rfl]

/-- A connection is replaced together with the counters. -/
theorem Accounts.replace (h : hub.Accounts accepted) (found : hub.connection? id = some c)
    (counts : ∀ total others, Counts total others hub.metrics c → Counts total others metrics c') :
    Accounts accepted { hub.replace id c' with metrics := metrics } := by
  obtain ⟨before, behind, whole, replaced⟩ := h.exists_split found
  have count (c : Connection H) : (before ++ (id, c) :: behind).countP (fun entry => !entry.2.ended) =
      before.countP (fun entry => !entry.2.ended) + behind.countP (fun entry => !entry.2.ended) + c.load := by
    rw [List.countP_append, List.countP_cons, Connection.load, Nat.add_assoc]
    cases c.ended <;> rfl
  have active := h.active
  rw [whole, count] at active
  obtain ⟨total', active'⟩ := counts _ _ ⟨h.total, active⟩
  refine ⟨?_, h.ascending, h.given, total', ?_⟩
  · rw [← h.numbers, whole]
    change (hub.replace id c').connections.map (·.1) = _
    simp [replaced c']
  · change metrics.active = (hub.replace id c').connections.countP _
    rw [replaced c', count, active']

theorem Accounts.receive (h : hub.Accounts accepted) {shared shared' : Shared H M} {data sent : Bytes} {next : Hub H}
    (received : hub.receive behaviour shared id data = some (sent, next, shared')) : next.Accounts accepted := by
  obtain ⟨c, found, he⟩ := Option.map_eq_some_iff.1 received
  cases he
  exact h.replace found fun total others counts =>
    @Session.Counts.receive _ _ behaviour total others ⟨c, shared, hub.metrics⟩ counts data

theorem Accounts.finish (h : hub.Accounts accepted) (id : ConnectionId) : (hub.finish id).Accounts accepted := by
  unfold Hub.finish
  split
  · exact h
  · rename_i c found
    split
    · exact h
    · rename_i open_
      exact h.replace found fun total others counts => counts.finish (by simpa using open_)

theorem Accounts.stopBut (h : hub.Accounts accepted) (busy : ConnectionId → Bool) :
    (hub.stopBut busy).Accounts accepted := by
  have ended {entries : List (ConnectionId × Connection H)} {hub : Hub H} (h : hub.Accounts accepted) :
      (entries.foldl (fun hub entry => hub.finish entry.1) hub).Accounts accepted := by
    induction entries generalizing hub with
    | nil => exact h
    | cons entry entries ih => exact ih (h.finish entry.1)
  obtain ⟨numbers, ascending, given, total, active⟩ := ended h
  exact ⟨numbers, ascending, given, total, active⟩

/-- An accepted connection gets the next number and is counted. -/
theorem Accounts.accept (h : hub.Accounts accepted) (node : NodeId) :
    (hub.accept node).2.Accounts (accepted ++ [(hub.accept node).1]) := by
  have given (entry : ConnectionId × Connection H) (he : entry ∈ hub.connections) : entry.1 ≠ hub.nextId :=
    Nat.ne_of_lt (h.given entry.1 (h.numbers ▸ List.mem_map_of_mem he))
  have absent : hub.connection? hub.nextId = none := by
    rw [connection?, Option.map_eq_none_iff, List.find?_eq_none]
    exact fun entry he => by simpa using given entry he
  have others : hub.connections.filter (·.1 ≠ hub.nextId) = hub.connections :=
    List.filter_eq_self.2 fun entry he => by simpa using given entry he
  have ended : hub.finish hub.nextId = hub := by rw [Hub.finish, absent]
  obtain ⟨numbers, ascending, below, total, active⟩ := h
  simp only [Hub.accept, connect, ended, others]
  refine ⟨?_, ?_, fun id hid => ?_, ?_, ?_⟩
  · rw [List.map_append, numbers]
    rfl
  · exact List.pairwise_append.2 ⟨ascending, List.pairwise_singleton _ _, by simpa using below⟩
  · rcases List.mem_append.1 hid with hid | hid
    · exact Nat.lt_of_lt_of_le (below id hid) (Nat.le_max_left _ _)
    · rw [List.mem_singleton.1 hid]
      exact Nat.lt_of_lt_of_le (Nat.lt_succ_self _) (Nat.le_max_right _ _)
  · cases hub.stopped <;> simp [Metrics.accept, Metrics.finish, total]
  · cases hub.stopped <;>
      simp [Metrics.accept, Metrics.finish, active, Connection.create, Connection.ended, List.countP_append]

end Hub

namespace Server

variable {bind : Endpoint → Except String UInt16} {s s' : Server H} {busy : ConnectionId → Bool}
  {accepted ids : List ConnectionId}

/-- Everything that can happen to a server and its connections, with the connections that are accepted meanwhile. A
connection that is busy while the server closes ends later. -/
inductive Run (behaviour : Behaviour H M) (s : Server H) : List ConnectionId → Server H → Prop
  | nothing : Run behaviour s [] s
  | start {ids : List ConnectionId} {now : Server H} (before : Run behaviour s ids now)
      {bind : Endpoint → Except String UInt16} (keeps : KeepsPorts bind) : Run behaviour s ids (now.start bind).2
  | close {ids : List ConnectionId} {now : Server H} (before : Run behaviour s ids now)
      (busy : ConnectionId → Bool) : Run behaviour s ids (now.closeBut busy).2
  | accept {ids : List ConnectionId} {now next : Server H} {id : ConnectionId} (before : Run behaviour s ids now)
      (accepted : now.accept = some (id, next)) : Run behaviour s (ids ++ [id]) next
  | receive {ids : List ConnectionId} {now : Server H} {id : ConnectionId} {shared shared' : Shared H M}
      {data sent : Bytes} {hub : Hub H} (before : Run behaviour s ids now)
      (received : now.hub.receive behaviour shared id data = some (sent, hub, shared')) :
      Run behaviour s ids { now with hub }
  | finish {ids : List ConnectionId} {now : Server H} (before : Run behaviour s ids now) (id : ConnectionId) :
      Run behaviour s ids { now with hub := now.hub.finish id }

section Listener

/-- A server starts as its listener does. -/
theorem start_result (bind : Endpoint → Except String UInt16) (s : Server H) :
    (s.start bind).1 = (s.listener.start bind).1 := by
  unfold start
  split <;> simp [*]

theorem start_listener (bind : Endpoint → Except String UInt16) (s : Server H) :
    (s.start bind).2.listener = (s.listener.start bind).2 := by
  unfold start
  split <;> simp [*]

/-- A server closes as its listener does. -/
theorem closeBut_result (busy : ConnectionId → Bool) (s : Server H) : (s.closeBut busy).1 = s.listener.close.1 := by
  unfold closeBut
  split <;> simp [*]

theorem closeBut_listener (busy : ConnectionId → Bool) (s : Server H) :
    (s.closeBut busy).2.listener = s.listener.close.2 := by
  unfold closeBut
  split <;> simp [*]

theorem accept_listener {id : ConnectionId} (accepted : s.accept = some (id, s')) : s'.listener = s.listener := by
  unfold accept at accepted
  split at accepted <;> cases accepted
  rfl

/-- Whatever happens to a server, its listener only ever starts and closes. -/
theorem Run.listener (run : s.Run behaviour ids s') : s.listener.Run s'.listener := by
  induction run with
  | nothing => exact .nothing
  | start _ keeps ih => exact start_listener _ _ ▸ .start ih keeps
  | close _ busy ih => exact closeBut_listener _ _ ▸ .close ih
  | accept _ accepted ih => exact accept_listener accepted ▸ ih
  | receive _ _ ih => exact ih
  | finish _ _ ih => exact ih

/-- A server takes calls, whichever connections are busy. -/
theorem takesCalls (behaviour : Behaviour H M) (busy : ConnectionId → Bool) (s : Server H) :
    TakesCalls listener start (closeBut busy) (fun s s' => ∃ ids, s.Run behaviour ids s') s where
  startRefused bind service := by
    rw [start_result]
    exact (Listener.takesCalls s.listener).startRefused bind service
  closeRefused service := by
    rw [closeBut_result]
    exact (Listener.takesCalls s.listener).closeRefused service
  startFailed bind fault failed := by
    have kept := (Listener.takesCalls s.listener).startFailed bind fault (start_result bind s ▸ failed)
    rw [start_result] at failed
    unfold start
    split <;> simp_all
  closeFailed fault failed := by
    have kept := (Listener.takesCalls s.listener).closeFailed fault (closeBut_result busy s ▸ failed)
    rw [closeBut_result] at failed
    unfold closeBut
    split <;> simp_all
  portKept bind keeps started s' later := by
    obtain ⟨ids, run⟩ := later
    have after := run.listener
    rw [start_listener] at after ⊢
    exact (Listener.takesCalls s.listener).portKept bind keeps (start_result bind s ▸ started) _ after

end Listener

section Counters

/-- Starting a server leaves its connections as they are. -/
theorem accounts_start (h : s.hub.Accounts accepted) (bind : Endpoint → Except String UInt16) :
    (s.start bind).2.hub.Accounts accepted := by
  unfold start
  split
  · exact ⟨h.numbers, h.ascending, h.given, h.total, h.active⟩
  · exact h

theorem accounts_closeBut (h : s.hub.Accounts accepted) (busy : ConnectionId → Bool) :
    (s.closeBut busy).2.hub.Accounts accepted := by
  unfold closeBut
  split
  · exact h.stopBut busy
  · exact h

theorem accounts_accept (h : s.hub.Accounts accepted) {id : ConnectionId} (connected : s.accept = some (id, s')) :
    s'.hub.Accounts (accepted ++ [id]) := by
  unfold accept at connected
  split at connected <;> cases connected
  exact h.accept s.node

/-- Whatever happens to a server, all its connections stay accounted for. -/
theorem Run.accounts (run : s.Run behaviour ids s') (h : s.hub.Accounts accepted) :
    s'.hub.Accounts (accepted ++ ids) := by
  induction run with
  | nothing => rwa [List.append_nil]
  | start _ keeps ih => exact accounts_start ih _
  | close _ busy ih => exact accounts_closeBut ih busy
  | accept _ connected ih => exact List.append_assoc .. ▸ accounts_accept ih connected
  | receive _ received ih => exact ih.receive received
  | finish _ id ih => exact ih.finish id

end Counters

end Server

/-- **Restarts.** A server for documents and one for requests take calls alike, wherever they are in a run: a call is
refused just when it does not fit, a call that fails changes nothing, and the port stays from the first successful start
on. Over all restarts the connections of the former are numbered upwards, all of them are counted, and those that have
not ended are counted as active, so that there is always one to take off when a connection ends. -/
theorem restarts (behaviour : Behaviour H M) :
    (∀ service address port l, (Listener.create service address port).Run l →
      TakesCalls id Listener.start Listener.close Listener.Run l) ∧
    ∀ node address port ids s, (Server.create node address port : Server H).Run behaviour ids s →
      (∀ busy, TakesCalls Server.listener Server.start (Server.closeBut busy)
        (fun s s' => ∃ ids, s.Run behaviour ids s') s) ∧
      ids.Pairwise (· < ·) ∧
      s.hub.connections.map (·.1) = ids ∧
      s.hub.metrics.accepted = ids.length ∧
      s.hub.metrics.active = s.hub.connections.countP (fun entry => !entry.2.ended) ∧
      ∀ id c, s.hub.connection? id = some c → c.ended = false → 0 < s.hub.metrics.active := by
  refine ⟨fun _ _ _ l _ => l.takesCalls, fun node address port ids s run => ?_⟩
  have accounts : s.hub.Accounts ids := run.accounts Hub.accounts_create
  refine ⟨fun busy => s.takesCalls behaviour busy, accounts.ascending, accounts.numbers, accounts.total,
    accounts.active, fun id c found open_ => ?_⟩
  rw [accounts.active, List.countP_pos_iff]
  obtain ⟨entry, he, rfl⟩ := Option.map_eq_some_iff.1 found
  exact ⟨entry, List.mem_of_find?_eq_some he, by simp [open_]⟩

/-- The second of two clients is busy when the server closes. A start fails because the port is taken, the next one gets
the port that it had before, and a third client connects. -/
theorem restarts_busy :
    let address : IpAddress := .v4 127 0 0 1
    let server : Server Handler := .create 0 address 0
    ∃ closed s : Server Handler,
      server.Run Handler.behaviour [1, 2] closed ∧ server.Run Handler.behaviour [1, 2, 3] s ∧
      (closed.start (Host.grantFree [{ address, port := 49152 }])).1 =
        .error (.bind { address, port := 49152 } Host.inUse) ∧
      (closed.start (Host.grantFree [{ address, port := 49152 }])).2 = closed ∧
      s.listener.running = true ∧ s.listener.port = 49152 ∧
      s.hub.connections.map (fun entry => (entry.1, entry.2.ended)) = [(1, true), (2, false), (3, false)] ∧
      s.hub.metrics.accepted = 3 ∧ s.hub.metrics.active = 2 := by
  intro address server
  let up : Listener := { server.listener with port := 49152, running := true }
  let first : Connection Handler := .create (.create 1 0)
  let second : Connection Handler := .create (.create 2 0)
  let third : Connection Handler := .create (.create 3 0)
  let closed : Server Handler := ⟨0, { up with running := false },
    ⟨3, [(1, { first with waiting := none }), (2, second)], ⟨2, 1, 0, 0⟩, true⟩⟩
  let s : Server Handler := ⟨0, up,
    ⟨4, [(1, { first with waiting := none }), (2, second), (3, third)], ⟨3, 2, 0, 0⟩, false⟩⟩
  have keeps := Host.keepsPorts_grantFree
  have started : server.Run Handler.behaviour [] { server with listener := up } := .start .nothing (keeps [])
  have closing : server.Run Handler.behaviour [1, 2] closed :=
    .close (.accept (.accept started rfl) rfl) (· = 2)
  have run : server.Run Handler.behaviour [1, 2, 3] s := .accept (.start closing (keeps [])) rfl
  obtain ⟨calls, -⟩ := (restarts Handler.behaviour).2 0 address 0 _ closed closing
  obtain ⟨-, -, -, total, active, -⟩ := (restarts Handler.behaviour).2 0 address 0 _ s run
  have failed := (calls fun _ => false).startFailed (Host.grantFree [{ address, port := 49152 }]) _ rfl
  exact ⟨closed, s, closing, run, rfl, failed, rfl, rfl, rfl, total, active⟩

end Kv

end MockCluster
