import MockCluster.Proofs.Toml.Documents
import MockCluster.Proofs.Toml.Integers
import MockCluster.Settings.Form

/-!
# Settings and their fields

Every part of the settings has its fields in a document. A field that is missing stands for a default, so nothing that
differs from the default may be left out: what has no value is left out, and its default is to have no value, but an
empty list is written. Then every part is read back from its fields (`Settings.Fits.ofToml?_toToml`).

The numbers must fit the document, and the capabilities of a bucket must be a set (`Settings.Fits`). Settings that were
read are like that (`Settings.fits_of_ofToml?`), since the reader of every field checks its number. For the grace the
bound of the reader is greater than what a document can hold, so there the bound comes from the document.
-/

namespace MockCluster

section Entries

variable {α β : Type}

/-- What is written element by element is read element by element. -/
theorem mapM_map {items : List α} {f : α → β} {g : β → Option α} (h : ∀ x ∈ items, g (f x) = some x) :
    (items.map f).mapM g = some items := by
  induction items with
  | nil => rfl
  | cons x items ih =>
    rw [List.map_cons, List.mapM_cons, h x List.mem_cons_self, ih fun x hx => h x (List.mem_cons_of_mem _ hx)]
    rfl

theorem exists_of_mapM {items : List α} {results : List β} {f : α → Option β} (h : items.mapM f = some results) :
    ∀ result ∈ results, ∃ item ∈ items, f item = some result := by
  induction items generalizing results with
  | nil =>
    cases h
    exact fun _ hr => absurd hr List.not_mem_nil
  | cons item items ih =>
    rw [List.mapM_cons] at h
    obtain ⟨first, hf, h⟩ := Option.bind_eq_some_iff.1 h
    obtain ⟨more, hm, h⟩ := Option.bind_eq_some_iff.1 h
    cases h
    intro result hr
    rcases List.mem_cons.1 hr with rfl | hr
    · exact ⟨item, List.mem_cons_self, hf⟩
    · obtain ⟨other, ho, he⟩ := ih hm result hr
      exact ⟨other, List.mem_cons_of_mem _ ho, he⟩

theorem NameMap.mem_of_mem_ofList {pairs : List (String × α)} : ∀ entry ∈ (ofList pairs).entries, entry ∈ pairs := by
  have inserted (m : NameMap α) (entry : String × α)
      (h : entry ∈ (pairs.foldl (fun m pair => m.insert pair.1 pair.2) m).entries) :
      entry ∈ m.entries ∨ entry ∈ pairs := by
    induction pairs generalizing m with
    | nil => exact .inl h
    | cons pair pairs ih =>
      rcases ih _ h with h | h
      · rcases mem_insertEntry h with rfl | h
        · exact .inr List.mem_cons_self
        · exact .inl h
      · exact .inr (List.mem_cons_of_mem _ h)
  intro entry he
  exact (inserted .empty entry he).resolve_left List.not_mem_nil

end Entries

namespace Toml

variable {α : Type} {fields : List (String × Toml)} {key : String} {read : Toml → Option α}

theorem natUpTo?_integer {bound n : Nat} (h : n ≤ bound) : natUpTo? bound (.integer n) = some n := by
  have range : (0 : Int) ≤ n ∧ (n : Int) ≤ bound := ⟨Int.natCast_nonneg n, Int.ofNat_le.2 h⟩
  rw [natUpTo?, if_pos range, Int.toNat_natCast]

theorem le_of_natUpTo? {bound n : Nat} {v : Toml} (h : natUpTo? bound v = some n) : n ≤ bound := by
  unfold natUpTo? at h
  split at h
  · split at h
    · rename_i range
      cases h
      omega
    · cases h
  · cases h

/-- What belongs to a record fits if the record does. -/
theorem Fits.record? {v : Toml} (h : v.Fits) {names : List String} (he : v.record? names = some fields) :
    ∀ field ∈ fields, field.2.Fits := by
  cases h with
  | array each =>
    cases he
    exact fun field hf => each field.2 (List.of_mem_zip hf).2
  | table each =>
    cases he
    exact each
  | datetime literal =>
    cases he
    exact fun field hf => List.mem_singleton.1 hf ▸ .string literal
  | _ => cases he

/-- A number that is read has 63 bits. -/
theorem Fits.le_of_natUpTo? {v : Toml} (h : v.Fits) {bound n : Nat} (he : natUpTo? bound v = some n) :
    n ≤ 9223372036854775807 := by
  cases h with
  | @integer m range =>
    rw [natUpTo?] at he
    unfold inRange? at range
    split at he <;> split at range <;> cases he <;> cases range
    omega
  | _ => cases he

theorem list?_map {write : α → Toml} {items : List α} (h : ∀ x ∈ items, read (write x) = some x) :
    list? read (.array (items.map write)) = some items := by
  rw [list?]
  exact mapM_map h

theorem map?_map (write : α → Toml) (m : NameMap α) (h : ∀ entry ∈ m.entries, read (write entry.2) = some entry.2) :
    map? read (.table (m.entries.map fun entry => (entry.1, write entry.2))) = some m := by
  have entries : (m.entries.map fun entry => (entry.1, write entry.2)).mapM
      (fun field => (read field.2).map (field.1, ·)) = some m.entries :=
    mapM_map fun entry he => by rw [h entry he, Option.map_some]
  change (List.mapM (fun field : String × Toml => (read field.2).map (field.1, ·)) _).bind
    (fun pairs => some (NameMap.ofList pairs)) = some m
  rw [entries, Option.bind_some, NameMap.ofList_entries]

/-- What is read as a list was read element by element. -/
theorem exists_of_list? {v : Toml} {results : List α} (h : list? read v = some results) :
    ∀ result ∈ results, ∃ item, read item = some result := by
  obtain ⟨items, -, h⟩ := Option.bind_eq_some_iff.1 h
  intro result hr
  obtain ⟨item, -, he⟩ := exists_of_mapM h result hr
  exact ⟨item, he⟩

/-- What is read as a map was read entry by entry. -/
theorem exists_of_map? {v : Toml} {m : NameMap α} (h : map? read v = some m) :
    ∀ entry ∈ m.entries, ∃ item, read item = some entry.2 := by
  obtain ⟨fields, -, h⟩ := Option.bind_eq_some_iff.1 h
  obtain ⟨pairs, hp, h⟩ := Option.bind_eq_some_iff.1 h
  cases h
  intro entry he
  obtain ⟨field, -, hf⟩ := exists_of_mapM hp entry (NameMap.mem_of_mem_ofList entry he)
  obtain ⟨value, hv, rfl⟩ := Option.map_eq_some_iff.1 hf
  exact ⟨field.2, hv⟩

/-- The value of a field is its default or was read. -/
theorem fieldOr_cases {default x : α} (h : fieldOr fields key default read = some x) :
    x = default ∨ ∃ v, (key, v) ∈ fields ∧ read v = some x := by
  unfold fieldOr at h
  split at h
  · cases h
    exact .inl rfl
  · rename_i v found
    obtain ⟨field, hf, rfl⟩ := Option.map_eq_some_iff.1 found
    obtain rfl : field.1 = key := by simpa using List.find?_some hf
    exact .inr ⟨field.2, List.mem_of_find?_eq_some hf, h⟩

end Toml

/-! ## Parts of settings -/

/-- The numbers in the settings of the listeners fit. -/
structure ListenerSettings.Fits (l : ListenerSettings) : Prop where
  kv : ∀ port ∈ l.kvPortBase, port ≤ 65535
  http : ∀ port ∈ l.httpPortBase, port ≤ 65535

theorem ListenerSettings.Fits.ofToml?_toToml {l : ListenerSettings} (h : l.Fits) :
    ofToml? (.table l.toToml) = some l := by
  obtain ⟨bind, kv, http⟩ := l
  obtain ⟨hk, hh⟩ := h
  cases kv <;> cases http <;>
    simp_all [ListenerSettings.ofToml?, toToml, Toml.record?, Toml.fields?, Toml.fieldOr, Toml.lookup, Toml.string?,
      Toml.nat16?, Toml.natUpTo?_integer]

theorem ListenerSettings.fits_of_ofToml? {v : Toml} {l : ListenerSettings} (h : ofToml? v = some l) : l.Fits := by
  simp only [ofToml?, Option.bind_eq_bind, Option.bind_eq_some_iff, Option.pure_def, Option.some.injEq] at h
  obtain ⟨fields, -, bind, -, kv, hk, http, hh, rfl⟩ := h
  have port {key : String} {port : Option Nat}
      (h : Toml.fieldOr fields key none (fun v => v.nat16?.map some) = some port) : ∀ p ∈ port, p ≤ 65535 := by
    rintro p rfl
    rcases Toml.fieldOr_cases h with he | ⟨v, -, read⟩
    · cases he
    · obtain ⟨n, hn, he⟩ := Option.map_eq_some_iff.1 read
      cases he
      exact Toml.le_of_natUpTo? hn
  exact ⟨port hk, port hh⟩

theorem Credentials.ofToml?_toToml (c : Credentials) : ofToml? (.table c.toToml) = some c := by
  simp [Credentials.ofToml?, toToml, Toml.record?, Toml.fields?, Toml.fieldOr, Toml.lookup, Toml.string?]

/-- The numbers in an alternate address fit. -/
def AlternateSettings.Fits (a : AlternateSettings) : Prop := ∀ entry ∈ a.ports.entries, entry.2 ≤ 65535

theorem AlternateSettings.Fits.ofToml?_toToml {a : AlternateSettings} (h : a.Fits) : ofToml? a.toToml = some a := by
  have ports : Toml.map? Toml.nat16? (.table (a.ports.entries.map fun entry => (entry.1, .integer entry.2))) =
      some a.ports :=
    Toml.map?_map (fun port : Nat => .integer port) a.ports fun entry he => Toml.natUpTo?_integer (h entry he)
  simp [AlternateSettings.ofToml?, toToml, Toml.record?, Toml.fields?, Toml.field?, Toml.fieldOr, Toml.lookup,
    Toml.string?, ports]

theorem AlternateSettings.fits_of_ofToml? {v : Toml} {a : AlternateSettings} (h : ofToml? v = some a) : a.Fits := by
  simp only [ofToml?, Option.bind_eq_bind, Option.bind_eq_some_iff, Option.pure_def, Option.some.injEq] at h
  obtain ⟨fields, -, hostname, -, ports, hp, rfl⟩ := h
  intro entry he
  rcases Toml.fieldOr_cases hp with rfl | ⟨v, -, read⟩
  · exact absurd he List.not_mem_nil
  · obtain ⟨item, hi⟩ := Toml.exists_of_map? read entry he
    exact Toml.le_of_natUpTo? hi

/-- The numbers in the settings of a node fit. -/
def NodeSettings.Fits (n : NodeSettings) : Prop := ∀ entry ∈ n.alternates.entries, entry.2.Fits

theorem NodeSettings.Fits.ofToml?_toToml {n : NodeSettings} (h : n.Fits) : ofToml? n.toToml = some n := by
  have services : Toml.list? (fun v => v.name?.bind Service.ofName?) (.array (n.services.map fun s => .string s.name)) =
      some n.services := Toml.list?_map fun s _ => by rw [Toml.name?, Option.bind_some, Service.ofName?_name]
  have alternates : Toml.map? AlternateSettings.ofToml?
      (.table (n.alternates.entries.map fun entry => (entry.1, entry.2.toToml))) = some n.alternates :=
    Toml.map?_map AlternateSettings.toToml n.alternates fun entry he => (h entry he).ofToml?_toToml
  simp [NodeSettings.ofToml?, toToml, Toml.record?, Toml.fields?, Toml.fieldOr, Toml.lookup, Toml.string?, services,
    alternates]

theorem NodeSettings.fits_of_ofToml? {v : Toml} {n : NodeSettings} (h : ofToml? v = some n) : n.Fits := by
  simp only [ofToml?, Option.bind_eq_bind, Option.bind_eq_some_iff, Option.pure_def, Option.some.injEq] at h
  obtain ⟨fields, -, hostname, -, services, -, network, -, alternates, ha, rfl⟩ := h
  intro entry he
  rcases Toml.fieldOr_cases ha with rfl | ⟨v, -, read⟩
  · exact absurd he List.not_mem_nil
  · obtain ⟨item, hi⟩ := Toml.exists_of_map? read entry he
    exact AlternateSettings.fits_of_ofToml? hi

/-- The numbers in the settings of a bucket fit, and its capabilities are a set. -/
structure BucketSettings.Fits (b : BucketSettings) : Prop where
  replicas : b.replicas ≤ 4294967295
  vbuckets : b.vbuckets ≤ 65535
  capabilities : ∀ cs ∈ b.capabilities, BucketCapability.normalize cs = cs

theorem BucketSettings.Fits.ofToml?_toToml {b : BucketSettings} (h : b.Fits) : ofToml? b.toToml = some b := by
  obtain ⟨name, replicas, vbuckets, capabilities⟩ := b
  obtain ⟨hr, hv, hc⟩ := h
  have read (cs : List BucketCapability) : Toml.list? (fun v => v.name?.bind BucketCapability.ofName?)
      (.array (cs.map fun c => .string c.name)) = some cs :=
    Toml.list?_map fun c _ => by rw [Toml.name?, Option.bind_some, BucketCapability.ofName?_name]
  cases capabilities <;>
    simp_all [BucketSettings.ofToml?, toToml, Toml.record?, Toml.fields?, Toml.field?, Toml.fieldOr, Toml.lookup,
      Toml.string?, Toml.nat16?, Toml.natUpTo?_integer]

theorem BucketSettings.fits_of_ofToml? {v : Toml} {b : BucketSettings} (h : ofToml? v = some b) : b.Fits := by
  simp only [ofToml?, Option.bind_eq_bind, Option.bind_eq_some_iff, Option.pure_def, Option.some.injEq] at h
  obtain ⟨fields, -, name, -, replicas, hr, vbuckets, hv, capabilities, hc, rfl⟩ := h
  refine ⟨?_, ?_, ?_⟩
  · rcases Toml.fieldOr_cases hr with rfl | ⟨v, -, read⟩
    · exact (by decide : 1 ≤ 4294967295)
    · exact Toml.le_of_natUpTo? read
  · rcases Toml.fieldOr_cases hv with rfl | ⟨v, -, read⟩
    · exact (by decide : 64 ≤ 65535)
    · exact Toml.le_of_natUpTo? read
  · rintro cs rfl
    rcases Toml.fieldOr_cases hc with he | ⟨v, -, read⟩
    · cases he
    · obtain ⟨named, -, he⟩ := Option.map_eq_some_iff.1 read
      cases he
      exact List.filter_congr fun c _ => by simp

/-- The numbers in settings fit, as those of a file do. -/
structure Settings.Fits (s : Settings) : Prop where
  listeners : s.listeners.Fits
  grace : s.shutdownGrace ≤ 9223372036854775807
  nodes : ∀ n ∈ s.nodes, n.Fits
  buckets : ∀ b ∈ s.buckets, b.Fits

/-- Settings that were read from a document fit. -/
theorem Settings.fits_of_ofToml? {fields : List (String × Toml)} {s : Settings}
    (range : ∀ field ∈ fields, field.2.Fits) (h : ofToml? fields = some s) : s.Fits := by
  simp only [ofToml?, Option.bind_eq_bind, Option.bind_eq_some_iff, Option.pure_def, Option.some.injEq] at h
  obtain ⟨listeners, hl, grace, hg, auth, -, logLevel, -, nodes, hn, buckets, hb, rfl⟩ := h
  refine ⟨?_, ?_, ?_, ?_⟩
  · rcases Toml.fieldOr_cases hl with rfl | ⟨v, -, read⟩
    · exact ⟨fun port hp => absurd hp (by simp [standard, ListenerSettings.standard]),
        fun port hp => absurd hp (by simp [standard, ListenerSettings.standard])⟩
    · exact ListenerSettings.fits_of_ofToml? read
  · rcases Toml.fieldOr_cases hg with rfl | ⟨v, hv, read⟩
    · exact (by decide : 1000 ≤ 9223372036854775807)
    · obtain ⟨inner, hi, read⟩ := Option.bind_eq_some_iff.1 read
      rcases Toml.fieldOr_cases read with rfl | ⟨w, hw, read⟩
      · exact (by decide : 1000 ≤ 9223372036854775807)
      · exact ((range _ hv).record? hi _ hw).le_of_natUpTo? read
  · rcases Toml.fieldOr_cases hn with rfl | ⟨v, -, read⟩
    · intro n hn
      rw [List.eq_of_mem_replicate hn]
      exact fun _ he => absurd he List.not_mem_nil
    · intro n hn
      obtain ⟨item, hi⟩ := Toml.exists_of_list? read n hn
      exact NodeSettings.fits_of_ofToml? hi
  · rcases Toml.fieldOr_cases hb with rfl | ⟨v, -, read⟩
    · intro b hb
      rw [List.mem_singleton.1 hb]
      exact ⟨by decide, by decide, fun cs hc => absurd hc (by simp [BucketSettings.standard])⟩
    · intro b hb
      obtain ⟨item, hi⟩ := Toml.exists_of_list? read b hb
      exact BucketSettings.fits_of_ofToml? hi

/-- **Settings are read back from their fields.** -/
theorem Settings.Fits.ofToml?_toToml {s : Settings} (h : s.Fits) : ofToml? s.toToml = some s := by
  have nodes : Toml.list? NodeSettings.ofToml? (.array (s.nodes.map NodeSettings.toToml)) = some s.nodes :=
    Toml.list?_map fun n hn => (h.nodes n hn).ofToml?_toToml
  have buckets : Toml.list? BucketSettings.ofToml? (.array (s.buckets.map BucketSettings.toToml)) = some s.buckets :=
    Toml.list?_map fun b hb => (h.buckets b hb).ofToml?_toToml
  have grace : s.shutdownGrace ≤ 18446744073709551615 := Nat.le_trans h.grace (by decide)
  simp [Settings.ofToml?, toToml, graceOfToml?, logLevelOfToml?, Toml.record?, Toml.fields?, Toml.fieldOr, Toml.lookup,
    Toml.string?, Toml.natUpTo?_integer grace, nodes, buckets, h.listeners.ofToml?_toToml,
    s.auth.ofToml?_toToml]

end MockCluster
