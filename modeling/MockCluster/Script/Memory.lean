import MockCluster.Binary.Packet
import MockCluster.Cluster.Observed
import MockCluster.Fault

/-!
# The memory of scripted handlers

Scripts write notes into a journal, remember handles under names, and set topologies aside. Scripts that answer packets
and scripts that answer HTTP requests have a notebook each; the topologies set aside are common to both.
-/

namespace MockCluster.Script

/-- What became of a request to a scope. -/
inductive Managed where
  /-- Something was registered under a handle. -/
  | registered (handle : Nat)
  /-- Something was to be removed; was it there? -/
  | removed (found : Bool)
  /-- The scope was cleared. -/
  | cleared
  /-- The number of entries. -/
  | counted (size : Nat)
  deriving DecidableEq, Repr

/-- An entry of the journal. -/
inductive Note where
  /-- A packet came by. -/
  | packet (tag : String) (remaining : Option Nat) (hasResponse : Bool) (packet : Packet) (connection : String)
      (node : NodeId)
  /-- An HTTP request came by, with some of its captures. -/
  | request (tag : String) (node : NodeId) (method path : String) (query : Option String)
      (captures : List (Option String)) (revision : Nat) (body : Bytes)
  /-- A fault was ignored. -/
  | fault (fault : Fault)
  /-- The cluster replied. -/
  | cluster (reply : Except Fault ClusterReply) (revision : Nat)
  /-- A scope of packet expectations was changed or looked at. -/
  | managed (result : Managed)
  /-- A scope of HTTP expectations was to be changed or looked at. -/
  | managedRoutes (result : Except Fault Managed)

/-- What scripts of one kind remember. -/
structure Notebook where
  /-- The notes since the journal was last read. -/
  journal : List Note
  /-- Handles under names. -/
  handles : NameMap Nat
  deriving Inhabited

namespace Notebook

/-- Nothing remembered. -/
def empty : Notebook := ⟨[], .empty⟩

/-- Adds a note. -/
def note (b : Notebook) (n : Note) : Notebook := { b with journal := b.journal ++ [n] }

/-- Remembers a handle, if a name is given. -/
def remember (b : Notebook) (name : Option String) (handle : Nat) : Notebook :=
  match name with
  | none => b
  | some name => { b with handles := b.handles.insert name handle }

/-- The notebook with a new journal. -/
def turn (b : Notebook) : Notebook := { b with journal := [] }

end Notebook

/-- What scripts remember. -/
structure Memory where
  /-- The notebook of the scripts that answer packets. -/
  packets : Notebook
  /-- The notebook of the scripts that answer requests. -/
  requests : Notebook
  /-- Topologies that were set aside. -/
  saved : NameMap Topology
  deriving Inhabited

namespace Memory

/-- Nothing remembered. -/
def empty : Memory := ⟨.empty, .empty, .empty⟩

/-- Changes the notebook of the scripts that answer packets. -/
def onPackets (m : Memory) (f : Notebook → Notebook) : Memory := { m with packets := f m.packets }

/-- Changes the notebook of the scripts that answer requests. -/
def onRequests (m : Memory) (f : Notebook → Notebook) : Memory := { m with requests := f m.requests }

/-- Runs a step on a cluster whose topology lives elsewhere. -/
def runStep (m : Memory) (topology : Topology) (step : ClusterStep) :
    Except Fault ClusterReply × Topology × Memory :=
  let (reply, cluster) := (Cluster.mk topology m.saved).run step
  (reply, cluster.topology, { m with saved := cluster.saved })

end Memory

end MockCluster.Script
