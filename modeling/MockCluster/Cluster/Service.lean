/-!
# Services and ports

What a node can run, and the ports under which an address offers it.
-/

namespace MockCluster

/-- A service that a node can run. -/
inductive Service where
  /-- Administration over HTTP. -/
  | mgmt
  /-- Documents over the binary protocol. -/
  | kv
  /-- Map-reduce views. -/
  | views
  /-- The query language. -/
  | query
  /-- Full-text search. -/
  | search
  /-- Analytics. -/
  | analytics
  deriving DecidableEq, Repr, Inhabited

namespace Service

/-- Every service, in the order in which services are listed. -/
def all : List Service := [mgmt, kv, views, query, search, analytics]

/-- The name of a service in settings. -/
def name : Service → String
  | mgmt => "mgmt"
  | kv => "kv"
  | views => "views"
  | query => "query"
  | search => "search"
  | analytics => "analytics"

/-- The service of a name. -/
def ofName? (name : String) : Option Service := all.find? (·.name = name)

/-- The key of a service in configuration documents. -/
def configKey : Service → String
  | mgmt => "mgmt"
  | kv => "kv"
  | views => "capi"
  | query => "n1ql"
  | search => "fts"
  | analytics => "cbas"

/-- Every service, in ascending order of its key in documents. -/
def byConfigKey : List Service := [views, analytics, search, kv, mgmt, query]

/-- The place of a service in the order of `all`. -/
def order : Service → Nat
  | mgmt => 0
  | kv => 1
  | views => 2
  | query => 3
  | search => 4
  | analytics => 5

/-- A list of services as a set: each once, in the order of `all`. -/
def normalize (services : List Service) : List Service := all.filter (· ∈ services)

theorem mem_all (s : Service) : s ∈ all := by cases s <;> decide

theorem mem_byConfigKey (s : Service) : s ∈ byConfigKey := by cases s <;> decide

@[simp] theorem mem_normalize {s : Service} {services : List Service} :
    s ∈ normalize services ↔ s ∈ services := by
  simp [normalize, mem_all]

@[simp] theorem ofName?_name (s : Service) : ofName? s.name = some s := by cases s <;> decide

end Service

/-- Ports for some of the services. -/
structure PortMap where
  /-- The port of a service. -/
  get? : Service → Option UInt16

namespace PortMap

instance : Inhabited PortMap := ⟨⟨fun _ => none⟩⟩

/-- No ports. -/
def empty : PortMap := ⟨fun _ => none⟩

/-- Gives a service a port. -/
def insert (ports : PortMap) (service : Service) (port : UInt16) : PortMap :=
  ⟨fun s => if s = service then some port else ports.get? s⟩

/-- Only the ports of the given services. -/
def restrict (ports : PortMap) (services : List Service) : PortMap :=
  ⟨fun s => if s ∈ services then ports.get? s else none⟩

/-- The services that have ports, among the given ones and in their order. -/
def entriesIn (services : List Service) (ports : PortMap) : List (Service × UInt16) :=
  services.filterMap fun s => (ports.get? s).map (s, ·)

/-- The services that have ports. -/
def entries (ports : PortMap) : List (Service × UInt16) := ports.entriesIn Service.all

@[simp] theorem get?_empty (s : Service) : empty.get? s = none := rfl

@[simp] theorem get?_insert (ports : PortMap) (service s : Service) (port : UInt16) :
    (ports.insert service port).get? s = if s = service then some port else ports.get? s := rfl

@[simp] theorem get?_restrict (ports : PortMap) (services : List Service) (s : Service) :
    (ports.restrict services).get? s = if s ∈ services then ports.get? s else none := rfl

@[ext] theorem ext {a b : PortMap} (h : ∀ s, a.get? s = b.get? s) : a = b := by
  obtain ⟨f⟩ := a
  obtain ⟨g⟩ := b
  exact congrArg PortMap.mk (funext h)

end PortMap

end MockCluster
