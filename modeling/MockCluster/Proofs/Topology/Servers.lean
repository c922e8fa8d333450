import MockCluster.Proofs.Message.Queries
import MockCluster.Proofs.Topology.BucketView

/-!
# Servers

In the list of servers a host and a port stand as one text. A hostname may be any text, so that colons and brackets need
not be the ones that were put there:

| host | port | text |
| --- | --- | --- |
| `a` | 80 | `a:80` |
| `a:80` | 80 | `[a:80]:80` |
| `[a]` | 80 | `[a]:80` |
| `[a:80]` | 80 | `[[a:80]]:80` |

Still the text says which host and which port it is (`HostPort.ofText?_hostPort`). A port has no colon, so the last one
stands before the port. Brackets are no colons either, so there is a colon in front of this one if and only if the host
has one, and that is when there are brackets around it. So two nodes that are reached under different hosts or ports
never have the same server in a document (`servers_eq_iff`).
-/

namespace MockCluster

/-- A host and a port. -/
structure HostPort where
  host : String
  port : UInt16
  deriving DecidableEq, Repr

/-- What stands before the last `c`, and what stands after it. -/
def cutAtLast? (c : Char) (text : List Char) : Option (List Char × List Char) :=
  let cut := Http.cutAt c text.reverse
  cut.2.map fun front => (front.reverse, cut.1.reverse)

/-- In brackets, if there is a colon. -/
def bracketed (host : List Char) : List Char := if ':' ∈ host then '[' :: host ++ [']'] else host

/-- Without the outer brackets, if there is a colon. -/
def unbracketed (text : List Char) : List Char := if ':' ∈ text then text.tail.dropLast else text

/-- How a text is read: what stands after the last colon is the port, and what stands before it is the host. -/
def HostPort.ofText? (text : String) : Option HostPort :=
  (cutAtLast? ':' text.toList).map fun cut =>
    ⟨String.ofList (unbracketed cut.1), UInt16.ofNat (Nat.ofDigitChars 10 cut.2 0)⟩

section Texts

theorem cutAtLast?_append_cons {c : Char} {back : List Char} (h : c ∉ back) (front : List Char) :
    cutAtLast? c (front ++ c :: back) = some (front, back) := by
  have reversed : (front ++ c :: back).reverse = back.reverse ++ c :: front.reverse := by simp
  rw [cutAtLast?, reversed, Http.cutAt_append_cons (mt List.mem_reverse.1 h)]
  simp

/-- Brackets are no colons. -/
theorem colon_mem_bracketed {host : List Char} : ':' ∈ bracketed host ↔ ':' ∈ host := by
  unfold bracketed
  split
  · rename_i colon
    simp [colon]
  · rfl

theorem unbracketed_bracketed (host : List Char) : unbracketed (bracketed host) = host := by
  by_cases colon : ':' ∈ host
  · rw [unbracketed, if_pos (colon_mem_bracketed.2 colon), bracketed, if_pos colon, List.cons_append, List.tail_cons,
      List.dropLast_concat]
  · rw [unbracketed, if_neg (mt colon_mem_bracketed.1 colon), bracketed, if_neg colon]

theorem toList_hostPort (host : String) (port : UInt16) :
    (hostPort host port).toList = bracketed host.toList ++ ':' :: Nat.toDigits 10 port.toNat := by
  by_cases colon : ':' ∈ host.toList
  · rw [hostPort, if_pos (List.contains_iff_mem.2 colon), bracketed, if_pos colon]
    simp [toString]
  · rw [hostPort, if_neg (mt List.contains_iff_mem.1 colon), bracketed, if_neg colon]
    simp [toString]

/-- **A host and a port can be read from their text.** -/
theorem HostPort.ofText?_hostPort (host : String) (port : UInt16) :
    HostPort.ofText? (hostPort host port) = some ⟨host, port⟩ := by
  have port_digits : ':' ∉ Nat.toDigits 10 port.toNat := (areDigits_toDigits _).not_mem (by decide)
  rw [ofText?, toList_hostPort, cutAtLast?_append_cons port_digits]
  simp [unbracketed_bracketed, Nat.ofDigitChars_toDigits]

example : HostPort.ofText? "[a:80]:80" = some ⟨"a:80", 80⟩ ∧ HostPort.ofText? "[a]:80" = some ⟨"[a]", 80⟩ := by decide

/-- Other hosts or other ports give other texts. -/
theorem hostPort_inj {host host' : String} {port port' : UInt16} :
    hostPort host port = hostPort host' port' ↔ host = host' ∧ port = port' := by
  constructor
  · intro same
    have read := congrArg HostPort.ofText? same
    rw [HostPort.ofText?_hostPort, HostPort.ofText?_hostPort] at read
    exact HostPort.mk.inj (Option.some.inj read)
  · rintro ⟨rfl, rfl⟩
    rfl

end Texts

/-- Where a node is reached for documents on a network, if it has an address there with such a port. -/
def Node.hostPort? (network : Network) (node : Node) : Option HostPort :=
  (node.address? network).bind fun address => (address.ports.get? .kv).map (HostPort.mk address.hostname)

/-- What is read from a server of a list. -/
def Json.hostPort? : Json → Option HostPort
  | .str text => HostPort.ofText? text
  | _ => none

section Entries

variable {requester node : Node} {server : Json}

theorem Node.Serves.eq_of_hostPort? {host : String} {port : UInt16} (h : requester.Serves node server)
    (reached : node.hostPort? requester.network = some ⟨host, port⟩) : server = .str (hostPort host port) := by
  obtain ⟨address, ha, he⟩ := Option.bind_eq_some_iff.1 reached
  obtain ⟨port', hp, he⟩ := Option.map_eq_some_iff.1 he
  obtain ⟨rfl, rfl⟩ := HostPort.mk.inj he
  exact h.addressed address port' ha hp

theorem Node.Serves.eq_null (h : requester.Serves node server) (reached : node.hostPort? requester.network = none) :
    server = .null := by
  refine h.unaddressed fun address ha => ?_
  rw [Node.hostPort?, ha, Option.bind_some] at reached
  exact Option.map_eq_none_iff.1 reached

/-- Whatever stands for a node in the list of servers, it says where the node is reached, or that it is not. -/
theorem Node.Serves.hostPort?_eq (h : requester.Serves node server) :
    server.hostPort? = node.hostPort? requester.network := by
  cases reached : node.hostPort? requester.network with
  | none =>
    rw [h.eq_null reached]
    rfl
  | some place =>
    rw [h.eq_of_hostPort? reached]
    exact HostPort.ofText?_hostPort place.host place.port

/-- So nodes have the same server if and only if they are reached in the same place, or both are not reached at all. -/
theorem Node.Serves.eq_iff {other : Node} {server' : Json} (h : requester.Serves node server)
    (h' : requester.Serves other server') :
    server = server' ↔ node.hostPort? requester.network = other.hostPort? requester.network := by
  constructor
  · rintro rfl
    rw [← h.hostPort?_eq, h'.hostPort?_eq]
  · intro same
    cases reached : node.hostPort? requester.network with
    | none => rw [h.eq_null reached, h'.eq_null (same ▸ reached)]
    | some place => rw [h.eq_of_hostPort? reached, h'.eq_of_hostPort? (same ▸ reached)]

end Entries

/-- The list of servers does not depend on where the slots of a bucket are. -/
theorem VbucketServers.servers_eq {b : Bucket} {kvNodes : List Node} {network : Network} {vbuckets : VbucketServers}
    (placed : VbucketServers.ofBucket b kvNodes network = .ok vbuckets) :
    vbuckets.servers = kvNodes.map (VbucketServers.server? network) := by
  simp only [VbucketServers.ofBucket, bind, Except.bind] at placed
  split at placed
  · cases placed
  · obtain rfl := Except.ok.inj placed
    rfl

namespace Topology

/-- Whoever answers with a document is there and has the bucket, and the servers are those of the bucket. -/
theorem exists_of_bucketDocument {t : Topology} {name : String} {r : NodeId} {d : BucketDocument}
    (made : t.bucketDocument name r = .ok d) :
    ∃ requester b, t.node? r = some requester ∧ t.bucket? name = some b ∧
      VbucketServers.ofBucket b t.kvNodes requester.network = .ok d.vbuckets := by
  cases hr : t.node? r with
  | none => simp [bucketDocument, networkOf, hr, bind, Except.bind] at made
  | some requester =>
    cases hb : t.bucket? name with
    | none => simp [bucketDocument, networkOf, hr, hb, bind, Except.bind] at made
    | some b =>
      refine ⟨requester, b, rfl, rfl, ?_⟩
      cases hv : VbucketServers.ofBucket b t.kvNodes requester.network with
      | error fault => simp [bucketDocument, networkOf, hr, hb, hv, bind, Except.bind] at made
      | ok vbuckets =>
        simp only [bucketDocument, networkOf, hr, hb, hv, bind, Except.bind] at made
        obtain rfl := Except.ok.inj made
        rfl

/-- **No two servers have one text.** A host and a port can be read from their text, whatever text the host is, so that
other hosts or other ports have other texts. In every document that a node answers with, the list of servers says where
each node that holds documents is reached on the requester's network. Two of them have the same server if and only if
they are reached under the same host and the same port, or both have no such host and port. -/
theorem servers_eq_iff :
    (∀ host port, HostPort.ofText? (hostPort host port) = some ⟨host, port⟩) ∧
      (∀ host host' port port', hostPort host port = hostPort host' port' ↔ host = host' ∧ port = port') ∧
      ∀ (t : Topology) name r d, t.bucketDocument name r = .ok d →
        ∃ requester map servers, t.node? r = some requester ∧ d.toJson.field? "vBucketServerMap" = some map ∧
          map.field? "serverList" = some (.arr servers) ∧ List.Forall₂ requester.Serves t.kvNodes servers ∧
          servers.map Json.hostPort? = t.kvNodes.map (Node.hostPort? requester.network) ∧
          ∀ (i j : Nat) node other, t.kvNodes[i]? = some node → t.kvNodes[j]? = some other →
            (servers[i]? = servers[j]? ↔
              node.hostPort? requester.network = other.hostPort? requester.network) := by
  refine ⟨HostPort.ofText?_hostPort, fun _ _ _ _ => hostPort_inj, fun t name r d made => ?_⟩
  obtain ⟨requester, b, found, -, placed⟩ := exists_of_bucketDocument made
  have servers := VbucketServers.servers_eq placed
  have serves (node : Node) := Node.serves_server? requester node
  refine ⟨requester, _, _, found, rfl, rfl, ?_, ?_, fun i j node other hi hj => ?_⟩
  · rw [servers, List.map_map, List.forall₂_map_right_iff, List.forall₂_same]
    exact fun node _ => serves node
  · rw [servers, List.map_map, List.map_map]
    exact List.map_congr_left fun node _ => (serves node).hostPort?_eq
  · rw [servers, List.map_map, List.getElem?_map, List.getElem?_map, hi, hj, Option.map_some, Option.map_some,
      Option.some.injEq]
    exact (serves node).eq_iff (serves other)

/-- The second node has the host of the first one in brackets. So have the two servers, and they are not the same. The
third node has no port. -/
theorem servers_eq_iff_brackets :
    let t := mutateAll
      [.addNode "::1" [.kv], .setPort 0 .kv 80, .addNode "[::1]" [.kv], .setPort 1 .kv 80, .addNode "a" [.kv],
        .addBucket ⟨"x", 0, 1, none⟩] initial
    ∃ d map servers, t.bucketDocument "x" 2 = .ok d ∧ d.toJson.field? "vBucketServerMap" = some map ∧
      map.field? "serverList" = some (.arr servers) ∧
      servers.map Json.hostPort? = [some ⟨"::1", 80⟩, some ⟨"[::1]", 80⟩, none] ∧
      servers[0]? ≠ servers[1]? ∧ servers[1]? ≠ servers[2]? ∧ hostPort "::1" 80 ≠ hostPort "[::1]" 80 := by
  intro t
  obtain ⟨-, differ, documents⟩ := servers_eq_iff
  obtain ⟨requester, map, servers, found, hm, hs, -, read, same⟩ := documents t "x" 2 _ rfl
  obtain rfl : t.nodes[2] = requester := Option.some.inj found
  refine ⟨_, map, servers, rfl, hm, hs, read, ?_, ?_, ?_⟩
  · exact mt (same 0 1 _ _ rfl rfl).1 (by decide)
  · exact mt (same 1 2 _ _ rfl rfl).1 (by decide)
  · exact mt (differ _ _ _ _).1 (by decide)

end Topology

end MockCluster
