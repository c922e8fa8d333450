import MockCluster.CommandLine.Report
import MockCluster.Proofs.Settings.Form
import MockCluster.Proofs.Text.Utf8Text

/-!
# Settings that are shown

Settings are shown as the text of a document, with every default filled in. The text is a file for the same settings:

| from                | to                  | there and back                           |
|---------------------|---------------------|------------------------------------------|
| settings            | fields              | `Settings.Fits.ofToml?_toToml`           |
| fields              | text                | `Toml.parse?_write`                      |
| text                | bytes of a file     | `Utf8.decode?_encode`                    |

The writer puts the plain values of a table before its tables, so the fields of the settings are read in another order
if there are no nodes or no buckets: an empty list is a plain value. But fields are looked up by their names, and every
name occurs once.
-/

namespace MockCluster

theorem Except.ok_of_mapError {ε ε' α : Type} {f : ε → ε'} {result : Except ε α} {a : α}
    (mapped : result.mapError f = .ok a) : result = .ok a := by
  cases result with
  | error e => cases mapped
  | ok b => exact congrArg Except.ok (Except.ok.inj mapped)

namespace Toml

variable {nested : List (String × Toml) → Prop} {fields : List (String × Toml)} {depth : Nat}

/-! ## Fields that can be written -/

theorem isInline_string (depth : Nat) (s : String) : IsInline depth (.string s) := by cases depth <;> trivial

theorem isInline_natCast {n : Nat} (h : n ≤ 9223372036854775807) (depth : Nat) : IsInline depth (.integer n) := by
  have range : inRange? n = some (n : Int) := if_pos (by omega)
  cases depth <;> exact range

theorem isInline_names {α : Type} (name : α → String) (items : List α) :
    IsInline (depthLimit - 1) (.array (items.map fun item => .string (name item))) := by
  intro v hv
  obtain ⟨item, -, rfl⟩ := List.mem_map.1 hv
  exact isInline_string _ _

/-- A document without tables is written as it is. -/
theorem canonical_of_inline (distinct : (fields.map (·.1)).Nodup)
    (inline : ∀ field ∈ fields, IsInline (depthLimit - 1) field.2) (depth : Nat) : Canonical depth fields := by
  cases depth with
  | zero => exact ⟨distinct, fields, [], (List.append_nil _).symm, inline, fun _ hf => absurd hf List.not_mem_nil⟩
  | succ depth =>
    exact ⟨distinct, fields, [], (List.append_nil _).symm, inline, fun _ hf => absurd hf List.not_mem_nil⟩

/-- A list whose elements are written as tables is written as an array of tables, unless it is empty. -/
theorem isInline_or_isTables {α : Type} {write : α → Toml} {items : List α}
    (each : ∀ item ∈ items, ∃ fields, write item = .table fields ∧ nested fields) :
    IsInline (depthLimit - 1) (.array (items.map write)) ∨ IsTables nested (.array (items.map write)) := by
  have rows : ∃ rows : List (List (String × Toml)), items.map write = rows.map .table ∧ ∀ row ∈ rows, nested row := by
    induction items with
    | nil => exact ⟨[], rfl, fun _ hr => absurd hr List.not_mem_nil⟩
    | cons item items ih =>
      obtain ⟨row, hw, hn⟩ := each item List.mem_cons_self
      obtain ⟨rows, he, hr⟩ := ih fun item hi => each item (List.mem_cons_of_mem _ hi)
      exact ⟨row :: rows, by rw [List.map_cons, List.map_cons, hw, he], List.forall_mem_cons.2 ⟨hn, hr⟩⟩
  obtain ⟨rows, he, hr⟩ := rows
  by_cases none : rows = []
  · refine .inl ?_
    rw [he, none]
    exact fun _ hv => absurd hv List.not_mem_nil
  · exact .inr (.inr ⟨rows, congrArg Toml.array he, none, hr⟩)

end Toml

/-! ## Settings that can be written -/

theorem isInline_port {n : Nat} (h : n ≤ 65535) (depth : Nat) : Toml.IsInline depth (.integer n) :=
  Toml.isInline_natCast (Nat.le_trans h (by decide)) depth

theorem ListenerSettings.Fits.canonical {l : ListenerSettings} (h : l.Fits) (depth : Nat) :
    Toml.Canonical depth l.toToml := by
  obtain ⟨bind, kv, http⟩ := l
  obtain ⟨hk, hh⟩ := h
  refine Toml.canonical_of_inline ?_ ?_ depth
  · cases kv <;> cases http <;> simp [toToml]
  · cases kv <;> cases http <;>
      simp_all [toToml, Toml.isInline_string, isInline_port]

/-- The ports are a table in that of an alternate address. -/
theorem AlternateSettings.Fits.canonical {a : AlternateSettings} (h : a.Fits) :
    ∃ fields, a.toToml = .table fields ∧ Toml.Canonical 1 fields := by
  refine ⟨_, rfl, (by decide : ["hostname", "ports"].Nodup), [("hostname", .string a.hostname)], [_], rfl, ?_, ?_⟩
  · simp [Toml.isInline_string]
  · have ports : Toml.Canonical 0 (a.ports.entries.map fun entry => (entry.1, .integer entry.2)) := by
      refine Toml.canonical_of_inline ?_ ?_ 0
      · rw [List.map_map]
        exact a.ports.distinct
      · intro field hf
        obtain ⟨entry, he, rfl⟩ := List.mem_map.1 hf
        exact isInline_port (h entry he) _
    intro field hf
    rw [List.mem_singleton.1 hf]
    exact .inl ⟨_, rfl, ports⟩

/-- The alternate addresses are a table of tables in that of a node. -/
theorem NodeSettings.Fits.canonical {n : NodeSettings} (h : n.Fits) :
    ∃ fields, n.toToml = .table fields ∧ Toml.Canonical 3 fields := by
  refine ⟨_, rfl, (by decide : ["hostname", "services", "network", "alternate_addresses"].Nodup),
    [_, _, _], [_], rfl, ?_, ?_⟩
  · simp [Toml.isInline_string, Toml.isInline_names Service.name n.services]
  · have alternates : Toml.Canonical 2 (n.alternates.entries.map fun entry => (entry.1, entry.2.toToml)) := by
      refine ⟨?_, [], _, rfl, fun _ hf => absurd hf List.not_mem_nil, ?_⟩
      · rw [List.map_map]
        exact n.alternates.distinct
      · intro field hf
        obtain ⟨entry, he, rfl⟩ := List.mem_map.1 hf
        exact .inl (h entry he).canonical
    intro field hf
    rw [List.mem_singleton.1 hf]
    exact .inl ⟨_, rfl, alternates⟩

/-- The settings of a bucket have no tables, whether its capabilities are given or not. -/
theorem BucketSettings.Fits.canonical {b : BucketSettings} (h : b.Fits) (depth : Nat) :
    ∃ fields, b.toToml = .table fields ∧ Toml.Canonical depth fields := by
  obtain ⟨name, replicas, vbuckets, capabilities⟩ := b
  obtain ⟨hr, hv, -⟩ := h
  have hr' : replicas ≤ 9223372036854775807 := Nat.le_trans hr (by decide)
  refine ⟨_, rfl, Toml.canonical_of_inline ?_ ?_ depth⟩
  · cases capabilities <;> simp
  · cases capabilities with
    | none => simp_all [Toml.isInline_string, isInline_port, Toml.isInline_natCast]
    | some cs =>
      simp_all [Toml.isInline_string, isInline_port, Toml.isInline_natCast,
        Toml.isInline_names BucketCapability.name cs]

theorem Settings.distinct_toToml (s : Settings) : (s.toToml.map (·.1)).Nodup :=
  (by decide : ["listeners", "server", "auth", "telemetry", "nodes", "buckets"].Nodup)

/-- The fields of settings can be written, the plain ones first. -/
theorem Settings.Fits.canonical {s : Settings} (h : s.Fits) : Toml.Canonical 4 (Toml.plainFirst s.toToml) := by
  refine Toml.arranged_plainFirst s.distinct_toToml ?_
  have table {fields : List (String × Toml)} (canonical : Toml.Canonical 3 fields) :
      Toml.IsInline (Toml.depthLimit - 1) (.table fields) ∨ Toml.IsTables (Toml.Canonical 3) (.table fields) :=
    .inr (.inl ⟨fields, rfl, canonical⟩)
  simp only [toToml, List.forall_mem_cons]
  refine ⟨table (h.listeners.canonical 3), table (Toml.canonical_of_inline ?_ ?_ 3),
    table (Toml.canonical_of_inline ?_ ?_ 3), table (Toml.canonical_of_inline ?_ ?_ 3),
    Toml.isInline_or_isTables (fun n hn => (h.nodes n hn).canonical),
    Toml.isInline_or_isTables (fun b hb => (h.buckets b hb).canonical 3), fun _ hf => absurd hf List.not_mem_nil⟩
  · simp
  · simp [Toml.isInline_natCast h.grace]
  · simp [Credentials.toToml]
  · simp [Credentials.toToml, Toml.isInline_string]
  · simp
  · simp [Toml.isInline_string]

/-! ## Files -/

/-- **Settings are read back from their text.** -/
theorem Settings.Fits.parse?_write {s : Settings} (h : s.Fits) :
    Settings.parse? (Toml.write s.toToml ++ "\n") = some s := by
  have read := Toml.parse?_write h.canonical (by decide)
  rw [Toml.write_plainFirst] at read
  rw [Settings.parse?, read, Option.bind_some, ← h.ofToml?_toToml]
  simp only [ofToml?, Toml.fieldOr, Toml.lookup_plainFirst s.distinct_toToml]

/-- Settings that are loaded from a text fit and are valid. -/
theorem Settings.fits_of_load {text : String} {s : Settings} (loaded : load text = .ok s) :
    s.Fits ∧ s.validate = .ok () := by
  unfold load at loaded
  split at loaded
  · cases loaded
  · rename_i read
    obtain ⟨fields, parsed, formed⟩ := Option.bind_eq_some_iff.1 read
    split at loaded
    · rename_i valid
      cases loaded
      exact ⟨fits_of_ofToml? (Toml.fits_of_parse? parsed) formed, valid⟩
    · cases loaded

/-- Valid settings can be loaded from their text. -/
theorem Settings.Fits.load_write {s : Settings} (h : s.Fits) (valid : s.validate = .ok ()) :
    load (Toml.write s.toToml ++ "\n") = .ok s := by
  rw [load, h.parse?_write]
  simp only [valid]

/-- The settings of an empty document fit. -/
theorem Settings.fits_standard : standard.Fits :=
  @fits_of_ofToml? [] standard (fun _ hf => absurd hf List.not_mem_nil) rfl

namespace CommandLine

variable {file : Option String} {found : FileState} {text : String} {s : Settings}

/-- Settings are loaded from a file if they are loaded from its text. -/
theorem loadSettings_encode (file : Option String) (loaded : Settings.load text = .ok s) :
    loadSettings file (.content (Utf8.encode text)) = .ok s := by
  cases file with
  | none => simp [loadSettings, loadFile, Utf8.decode?_encode, loaded, FileState.isAbsent, Except.mapError]
  | some path => simp [loadSettings, loadFile, Utf8.decode?_encode, loaded, Except.mapError]

/-- Settings from a file were loaded from some text. -/
theorem exists_load {path : String} (loaded : loadFile path found = .ok s) :
    ∃ text, Settings.load text = .ok s := by
  unfold loadFile at loaded
  split at loaded
  · cases loaded
  · cases loaded
  · split at loaded
    · cases loaded
    · exact ⟨_, Except.ok_of_mapError loaded⟩

/-- Loaded settings fit and are valid, and so are those that stand for a missing file. -/
theorem fits_of_loadSettings (loaded : loadSettings file found = .ok s) : s.Fits ∧ s.validate = .ok () := by
  have inFile {path : String} (loaded : loadFile path found = .ok s) : s.Fits ∧ s.validate = .ok () := by
    obtain ⟨text, loaded⟩ := exists_load loaded
    exact Settings.fits_of_load loaded
  unfold loadSettings at loaded
  split at loaded
  · exact inFile (Except.ok_of_mapError loaded)
  · split at loaded
    · cases loaded
      exact ⟨Settings.fits_standard, by decide⟩
    · exact inFile loaded

/-- What is shown of settings as TOML. -/
theorem run_display (loaded : loadSettings file found = .ok s) :
    (Request.display file "toml").run found = .done (Toml.write s.toToml ++ "\n") := by
  simp only [Request.run, loaded, render, bind, Except.bind, pure, Except.pure, if_true]

/-- **What is shown of settings is a file for them**, with every default filled in and nothing lost. The settings that
come from a file come again from the text that is shown of them, the text is valid, and the same is shown of it. -/
theorem display_loads (loaded : loadSettings file found = .ok s) :
    ∃ shown, (Request.display file "toml").run found = .done shown ∧
      ∀ file', loadSettings file' (.content (Utf8.encode shown)) = .ok s ∧
        (Request.validate file').run (.content (Utf8.encode shown)) = .done (validOutput s) ∧
        (Request.display file' "toml").run (.content (Utf8.encode shown)) = .done shown := by
  obtain ⟨fits, valid⟩ := fits_of_loadSettings loaded
  refine ⟨_, run_display loaded, fun file' => ?_⟩
  have again (file' : Option String) := loadSettings_encode file' (fits.load_write valid)
  refine ⟨again file', ?_, run_display (again file')⟩
  simp [Request.run, FileState.isAbsent, again, Except.map]

/-- An empty list of buckets does not become the standard one, and a port that is not given is not given. -/
theorem display_loads_no_buckets :
    ∃ s, loadSettings none (.content (Utf8.encode "buckets = []\n[listeners]\nkv_port_base = 20000\n")) = .ok s ∧
      s.buckets = [] ∧ s.listeners.kvPortBase = some 20000 ∧ s.listeners.httpPortBase = none ∧
      ∃ shown, (Request.display none "toml").run
          (.content (Utf8.encode "buckets = []\n[listeners]\nkv_port_base = 20000\n")) = .done shown ∧
        ∀ file', loadSettings file' (.content (Utf8.encode shown)) = .ok s ∧
          (Request.validate file').run (.content (Utf8.encode shown)) = .done (validOutput s) ∧
          (Request.display file' "toml").run (.content (Utf8.encode shown)) = .done shown := by
  have read : Settings.load "buckets = []\n[listeners]\nkv_port_base = 20000\n" =
      .ok { Settings.standard with listeners := ⟨"127.0.0.1", some 20000, none⟩, buckets := [] } := by
    decide +kernel
  have loaded := loadSettings_encode none read
  exact ⟨_, loaded, rfl, rfl, rfl, display_loads loaded⟩

end CommandLine

end MockCluster
