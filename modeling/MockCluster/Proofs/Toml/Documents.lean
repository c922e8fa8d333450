import MockCluster.NameMap
import MockCluster.Proofs.Toml.Lines
import MockCluster.Proofs.Toml.Places

/-!
# Documents, written and read

A document is written table by table. The plain values of a table follow its header, and its tables come after them,
each with a header that names the whole path. The reader goes the other way: every header closes the open table, that
is, puts it into the document at its path, and opens the next. So while the tables of a table are read, that table is
closed already, and grows at a place deep inside the document.

* `Canonical` tells which documents can be written so: every key once, plain values first, and tables not too deep.
* `Holds` is the invariant: at the place of a table stand the items that were read for it so far.
* `ReadsBack` says that the invariant is carried from the plain values of a table to all of its fields. It is proved for
  a table or an array of tables among fields (`IsTables.exists_node`), for the fields in turn (`exists_tables`), and by
  induction on the depth for everything (`Canonical.readsBack`).

A table without plain values whose tables have headers of their own is not written at all. Then it is not opened either,
but made on the way to the first of its tables, and is marked as implicit. That is why places come in two kinds, and why
`ReadsBack` does not promise at first that the table is there.
-/

namespace MockCluster.Toml

variable {lines : List Line}

/-- Whether a value is tables: one table, or an array of one table or more. `nested` says what they hold. -/
def IsTables (nested : List (String × Toml) → Prop) (v : Toml) : Prop :=
  (∃ inner, v = .table inner ∧ nested inner) ∨
    ∃ rows, v = .array (rows.map .table) ∧ rows ≠ [] ∧ ∀ row ∈ rows, nested row

/-- Fields as they are written: every key once, and the plain values before the tables. -/
structure Arranged (nested : List (String × Toml) → Prop) (fields : List (String × Toml)) : Prop where
  distinct : (fields.map (·.1)).Nodup
  plainFirst : ∃ plain tables, fields = plain ++ tables ∧ (∀ field ∈ plain, IsInline (depthLimit - 1) field.2) ∧
    ∀ field ∈ tables, IsTables nested field.2

/-- Documents as they are written, with tables nested `depth` deep at most. -/
def Canonical : (depth : Nat) → List (String × Toml) → Prop
  | 0 => Arranged fun _ => False
  | depth + 1 => Arranged (Canonical depth)

theorem IsInline.isSection {depth : Nat} {v : Toml} (h : IsInline depth v) : v.isSection = false := by
  cases v with
  | array items =>
    cases items with
    | nil => rfl
    | cons item items =>
      cases depth with
      | zero => cases h
      | succ depth =>
        have first := h item List.mem_cons_self
        cases item with
        | table => cases depth <;> cases first
        | _ => rfl
  | table fields => cases depth <;> cases h
  | _ => rfl

theorem IsTables.isSection {nested : List (String × Toml) → Prop} {v : Toml} (h : IsTables nested v) :
    v.isSection = true := by
  rcases h with ⟨inner, rfl, -⟩ | ⟨rows, rfl, nonempty, -⟩
  · rfl
  · obtain ⟨row, rows, rfl⟩ := List.exists_cons_of_ne_nil nonempty
    simp [Toml.isSection]

/-- The plain values among fields. -/
def plainFields (fields : List (String × Toml)) : List (String × Toml) := fields.filter fun field => !field.2.isSection

/-- The plain values among fields, as they stand in a table under construction. -/
def plainItems (fields : List (String × Toml)) : Items :=
  (plainFields fields).map fun field => (field.1, .value field.2)

section Plain

variable {plain : List (String × Toml)}

/-- The lines of plain values are read back. -/
theorem reads_plain (inline : ∀ field ∈ plain, IsInline (depthLimit - 1) field.2) :
    Reads (plain.flatMap fun field => (writeKey field.1 ++ " = " ++ field.2.writeValue ++ "\n").toList)
      (plain.map fun field => .definition [] field.1 field.2) := by
  induction plain with
  | nil => exact reads_nil
  | cons field plain ih =>
    rw [List.flatMap_cons, List.map_cons, ← List.singleton_append]
    exact (reads_definition field.1 (inline field List.mem_cons_self)).append
      (ih fun field hf => inline field (List.mem_cons_of_mem _ hf))

/-- Plain values are added to the open table. -/
theorem add_plain (b : Builder) {implicit : Bool} {items : Items} (current : b.current = ⟨implicit, false, items⟩)
    (distinct : (items.map (·.1) ++ plain.map (·.1)).Nodup) :
    (plain.map fun field => Line.definition [] field.1 field.2).foldlM Builder.add b =
      some { b with current := ⟨implicit, false, items ++ plain.map fun field => (field.1, .value field.2)⟩ } := by
  induction plain generalizing b items with
  | nil =>
    simp [← current]
  | cons field plain ih =>
    have fresh : field.1 ∉ items.map (·.1) := fun found =>
      (List.nodup_append.1 distinct).2.2 _ found _ List.mem_cons_self rfl
    have defined : b.add (.definition [] field.1 field.2) =
        some { b with current := ⟨implicit, false, items ++ [(field.1, .value field.2)]⟩ } := by
      have none : Section.get? ⟨implicit, false, items⟩ field.1 = none := Section.get?_of_fresh fresh
      simp [Builder.add, Section.define, Section.descend, current, none,
        Section.put_of_fresh (s := ⟨implicit, false, items⟩) fresh]
    rw [List.map_cons, List.foldlM_cons, defined]
    refine (ih _ rfl ?_).trans ?_
    · simpa using distinct
    · simp

end Plain

/-! ## Blocks -/

/-- Blocks of text, each with an empty line behind it, build a document further. -/
def Builds (blocks : List String) (b b' : Builder) : Prop :=
  ∃ lines, Reads (blocks.flatMap fun block => block.toList ++ ['\n']) lines ∧ lines.foldlM Builder.add b = some b'

variable {blocks blocks' : List String} {b b' b'' : Builder}

theorem builds_nil (b : Builder) : Builds [] b b := ⟨[], reads_nil, rfl⟩

theorem Builds.append (h : Builds blocks b b') (h' : Builds blocks' b' b'') : Builds (blocks ++ blocks') b b'' := by
  obtain ⟨lines, read, add⟩ := h
  obtain ⟨lines', read', add'⟩ := h'
  refine ⟨lines ++ lines', ?_, ?_⟩
  · rw [List.flatMap_append]
    exact read.append read'
  · rw [List.foldlM_append, add]
    exact add'

theorem builds_singleton {block : String} (read : Reads block.toList lines)
    (add : lines.foldlM Builder.add b = some b') : Builds [block] b b' := by
  refine ⟨lines ++ [.blank], ?_, ?_⟩
  · rw [List.flatMap_cons, List.flatMap_nil, List.append_nil]
    exact read.append reads_newline
  · rw [List.foldlM_append, add]
    rfl

/-! ## Tables -/

section Tables

variable {nested : List (String × Toml) → Prop} {fields plain tables : List (String × Toml)} {path : List String}
  {key : String} {implicit : Bool} {context : Items → Items} {items : Items} {root : Section}

/-- A builder whose document has a place for the items that it holds there. -/
def Holds (b : Builder) (path : List String) (implicit : Bool) (context : Items → Items) (items : Items) : Prop :=
  ∃ root, b.finish = some root ∧ root.Spot path implicit context items

theorem holds_of_finish (frame : Section.Frame path implicit context)
    (finish : b.finish = some ⟨false, false, context items⟩) : Holds b path implicit context items :=
  ⟨_, finish, frame items⟩

/-- The plain values of a document come first. -/
theorem Arranged.eq_append (h : Arranged nested fields) :
    ∃ tables, fields = plainFields fields ++ tables ∧
      (∀ field ∈ plainFields fields, IsInline (depthLimit - 1) field.2) ∧
      ∀ field ∈ tables, IsTables nested field.2 := by
  obtain ⟨plain, tables, rfl, inline, others⟩ := h.plainFirst
  have plainOnly : plainFields (plain ++ tables) = plain := by
    have noTables : tables.filter (fun field => !field.2.isSection) = [] :=
      List.filter_eq_nil_iff.2 fun field hf => by simp [(others field hf).isSection]
    rw [plainFields, List.filter_append, noTables, List.append_nil]
    exact List.filter_eq_self.2 fun field hf => by simp [(inline field hf).isSection]
  exact ⟨tables, by rw [plainOnly], plainOnly.symm ▸ inline, others⟩

theorem Arranged.distinct_plainFields (h : Arranged nested fields) : ((plainFields fields).map (·.1)).Nodup :=
  h.distinct.sublist (List.filter_sublist.map _)

theorem toList_writePlain (fields : List (String × Toml)) : (writePlain fields).toList =
    (plainFields fields).flatMap fun field => (writeKey field.1 ++ " = " ++ field.2.writeValue ++ "\n").toList := by
  rw [writePlain, String.toList_join, List.flatMap_map]
  rfl

/-- The plain values of a table are read from its lines. -/
theorem Arranged.reads_writePlain (h : Arranged nested fields) :
    Reads (writePlain fields).toList ((plainFields fields).map fun field => .definition [] field.1 field.2) := by
  obtain ⟨tables, -, inline, -⟩ := h.eq_append
  rw [toList_writePlain]
  exact reads_plain inline

/-- A table is opened by its header and filled with its plain values. -/
theorem Arranged.builds_head (h : Arranged nested fields) (short : path.length + 1 < depthLimit) (inArray : Bool)
    {place : Place}
    (header : b.add (if inArray then .arrayHeader path key else .header path key) = some ⟨root, place, .empty⟩) :
    Builds [(Heading.line ⟨path ++ [key], inArray⟩) ++ writePlain fields] b
      ⟨root, place, ⟨false, false, plainItems fields⟩⟩ := by
  have read := (reads_line key short inArray).append h.reads_writePlain
  rw [← String.toList_append] at read
  refine builds_singleton read ?_
  rw [List.singleton_append, List.foldlM_cons, header]
  exact @add_plain _ ⟨root, place, .empty⟩ false [] rfl h.distinct_plainFields

/-- Written tables among some fields are read back behind the plain values: at whatever place these stand, the fields
stand there afterwards. The document holds the place itself if it did before, or if there are tables. -/
def ReadsBack (fields : List (String × Toml)) (path : List String) : Prop :=
  ∀ implicit context b, Section.Frame path implicit context → Holds b path implicit context (plainItems fields) →
    ∃ b' items, Builds (writeSections path fields) b b' ∧ finishItems items = fields ∧
      Holds b' path implicit context items ∧
      (b.finish = some ⟨false, false, context (plainItems fields)⟩ ∨ (∃ field ∈ fields, field.2.isSection = true) →
        b'.finish = some ⟨false, false, context items⟩)

/-- A table whose plain values are not written has none. -/
theorem plainFields_of_writePlain (h : writePlain fields = "") : plainFields fields = [] := by
  have text := toList_writePlain fields
  cases he : plainFields fields with
  | nil => rfl
  | cons field more =>
    rw [he, h] at text
    simp at text

theorem plainItems_of_writePlain (h : writePlain fields = "") : plainItems fields = [] := by
  rw [plainItems, plainFields_of_writePlain h, List.map_nil]

/-- A table among fields is read back. -/
theorem Arranged.exists_table {inner : List (String × Toml)} (h : Arranged nested inner)
    (short : path.length + 1 < depthLimit) (ih : ReadsBack inner (path ++ [key]))
    (frame : Section.Frame path implicit context) (fresh : key ∉ items.map (·.1))
    (holds : Holds b path implicit context items) :
    ∃ b' node, Builds (writeTables (path ++ [key]) (.table inner)) b b' ∧ Node.finish node = .table inner ∧
      b'.finish = some ⟨false, false, context (items ++ [(key, node)])⟩ := by
  obtain ⟨root, finish, spot⟩ := holds
  by_cases shown : writePlain inner ≠ "" ∨ inner = []
  · have head : writeHead ⟨path ++ [key], false⟩ inner =
        [(Heading.line ⟨path ++ [key], false⟩) ++ writePlain inner] := by
      have shows : (false || decide (writePlain inner ≠ "") || inner.isEmpty) = true := by
        simpa using shown
      simp only [writeHead]
      rw [if_neg (by simp), if_pos shows]
    have opened : b.add (.header path key) = some ⟨root, .table path key, .empty⟩ := by
      simp [Builder.add, finish, spot.opened_of_fresh fresh]
    have start := h.builds_head short false opened
    have closed : (Builder.mk root (.table path key) ⟨false, false, plainItems inner⟩).finish =
        some ⟨false, false, context (items ++ [(key, .table false false (plainItems inner))])⟩ :=
      spot.close fresh ⟨false, false, plainItems inner⟩
    obtain ⟨b', inside, builds, finished, -, stands⟩ :=
      ih _ _ _ (frame.table fresh false) (holds_of_finish (frame.table fresh false) closed)
    refine ⟨b', .table false false inside, ?_, by rw [Node.finish, finished], stands (.inl closed)⟩
    rw [writeTables, head]
    exact start.append builds
  · obtain ⟨noPlain, nonempty⟩ : writePlain inner = "" ∧ inner ≠ [] := by simpa using shown
    have noItems : plainItems inner = [] := plainItems_of_writePlain noPlain
    have head : writeHead ⟨path ++ [key], false⟩ inner = [] := by
      simp [writeHead, noPlain, nonempty]
    have isSection : ∃ field ∈ inner, field.2.isSection = true := by
      obtain ⟨field, more, rfl⟩ := List.exists_cons_of_ne_nil nonempty
      have none := List.filter_eq_nil_iff.1 (plainFields_of_writePlain noPlain) field List.mem_cons_self
      exact ⟨field, List.mem_cons_self, by simpa using none⟩
    obtain ⟨b', inside, builds, finished, -, stands⟩ :=
      ih _ _ b (frame.table fresh true) ⟨root, finish, noItems ▸ spot.absent fresh⟩
    refine ⟨b', .table true false inside, ?_, by rw [Node.finish, finished], stands (.inr isSection)⟩
    rw [writeTables, head]
    exact builds

/-- A row of an array of tables is read back. -/
theorem Arranged.exists_row {inner : List (String × Toml)} (h : Arranged nested inner)
    (short : path.length + 1 < depthLimit) (ih : ReadsBack inner (path ++ [key]))
    (frame : Section.Frame path implicit context) (fresh : key ∉ items.map (·.1)) {rows : List Items}
    (holds : Holds b path implicit context (if rows = [] then items else items ++ [(key, .tables rows)])) :
    ∃ b' row, Builds (writeHead ⟨path ++ [key], true⟩ inner ++ writeSections (path ++ [key]) inner) b b' ∧
      finishItems row = inner ∧
      b'.finish = some ⟨false, false, context (items ++ [(key, .tables (rows ++ [row]))])⟩ := by
  obtain ⟨root, finish, spot⟩ := holds
  have head : writeHead ⟨path ++ [key], true⟩ inner =
      [(Heading.line ⟨path ++ [key], true⟩) ++ writePlain inner] := by
    simp [writeHead]
  have opened : b.add (.arrayHeader path key) = some ⟨root, .lastOf path key, .empty⟩ := by
    simp [Builder.add, finish]
  have start := h.builds_head short true opened
  have appended : (Builder.mk root (.lastOf path key) ⟨false, false, plainItems inner⟩).finish =
      some ⟨false, false, context (items ++ [(key, .tables (rows ++ [plainItems inner]))])⟩ := by
    change root.append path key ⟨false, false, plainItems inner⟩ = _
    by_cases first : rows = []
    · rw [if_pos first] at spot
      rw [spot.append_first fresh, first, List.nil_append]
    · rw [if_neg first] at spot
      rw [spot.append_next fresh]
  obtain ⟨b', row, builds, finished, -, stands⟩ :=
    ih _ _ _ (frame.last fresh rows) (holds_of_finish (frame.last fresh rows) appended)
  refine ⟨b', row, ?_, finished, stands (.inl appended)⟩
  rw [head]
  exact start.append builds

/-- An array of tables is read back, row by row. -/
theorem exists_rows {rows : List (List (String × Toml))} (nonempty : rows ≠ [])
    (arranged : ∀ row ∈ rows, ∃ nested, Arranged nested row) (short : path.length + 1 < depthLimit)
    (ih : ∀ row ∈ rows, ReadsBack row (path ++ [key])) (frame : Section.Frame path implicit context)
    (fresh : key ∉ items.map (·.1)) {done : List Items}
    (holds : Holds b path implicit context (if done = [] then items else items ++ [(key, .tables done)])) :
    ∃ b' more, Builds (writeArray (path ++ [key]) (rows.map .table)) b b' ∧
      finishTables more = rows.map .table ∧
      b'.finish = some ⟨false, false, context (items ++ [(key, .tables (done ++ more))])⟩ := by
  induction rows generalizing b done with
  | nil => exact absurd rfl nonempty
  | cons row rows next =>
    obtain ⟨nested, h⟩ := arranged row List.mem_cons_self
    obtain ⟨b', first, builds, finished, finish⟩ :=
      h.exists_row short (ih row List.mem_cons_self) frame fresh holds
    have written : writeArray (path ++ [key]) ((row :: rows).map .table) =
        writeHead ⟨path ++ [key], true⟩ row ++ writeSections (path ++ [key]) row ++
          writeArray (path ++ [key]) (rows.map .table) := by
      rw [List.map_cons, writeArray]
    rw [written]
    by_cases last : rows = []
    · subst last
      refine ⟨b', [first], ?_, ?_, finish⟩
      · rw [List.map_nil, writeArray, List.append_nil]
        exact builds
      · simp [finishTables, finished]
    · have stands : Holds b' path implicit context
          (if done ++ [first] = [] then items else items ++ [(key, .tables (done ++ [first]))]) := by
        rw [if_neg (by simp)]
        exact holds_of_finish frame finish
      obtain ⟨b'', more, builds', finished', finish'⟩ :=
        next last (fun row hr => arranged row (List.mem_cons_of_mem _ hr))
          (fun row hr => ih row (List.mem_cons_of_mem _ hr)) stands
      refine ⟨b'', first :: more, builds.append builds', ?_, ?_⟩
      · rw [finishTables, finished, finished', List.map_cons]
      · rw [finish', List.append_assoc, List.singleton_append]

/-- One table or an array of tables is read back. -/
theorem IsTables.exists_node {v : Toml} (h : IsTables nested v)
    (arranged : ∀ inner, nested inner → ∃ nested', Arranged nested' inner) (short : path.length + 1 < depthLimit)
    (ih : ∀ inner, nested inner → ReadsBack inner (path ++ [key])) (frame : Section.Frame path implicit context)
    (fresh : key ∉ items.map (·.1)) (holds : Holds b path implicit context items) :
    ∃ b' node, Builds (writeTables (path ++ [key]) v) b b' ∧ Node.finish node = v ∧
      b'.finish = some ⟨false, false, context (items ++ [(key, node)])⟩ := by
  rcases h with ⟨inner, rfl, hn⟩ | ⟨rows, rfl, nonempty, hn⟩
  · obtain ⟨nested', h⟩ := arranged inner hn
    exact h.exists_table short (ih inner hn) frame fresh holds
  · obtain ⟨b', more, builds, finished, finish⟩ := @exists_rows b path key implicit context items rows nonempty
      (fun row hr => arranged row (hn row hr)) short (fun row hr => ih row (hn row hr)) frame fresh [] holds
    refine ⟨b', .tables more, ?_, by rw [Node.finish, finished], finish⟩
    rw [writeTables]
    exact builds

/-- Tables among fields are read back, one after another. -/
theorem exists_tables (h : ∀ field ∈ tables, IsTables nested field.2)
    (arranged : ∀ inner, nested inner → ∃ nested', Arranged nested' inner)
    (short : tables ≠ [] → path.length + 1 < depthLimit)
    (ih : ∀ inner key, nested inner → ReadsBack inner (path ++ [key])) (frame : Section.Frame path implicit context)
    (distinct : (items.map (·.1) ++ tables.map (·.1)).Nodup) (holds : Holds b path implicit context items) :
    ∃ b' more, Builds (writeSections path tables) b b' ∧ finishItems more = tables ∧
      Holds b' path implicit context (items ++ more) ∧
      (b.finish = some ⟨false, false, context items⟩ ∨ tables ≠ [] →
        b'.finish = some ⟨false, false, context (items ++ more)⟩) := by
  induction tables generalizing b items with
  | nil =>
    refine ⟨b, [], builds_nil b, rfl, ?_, ?_⟩
    · rwa [List.append_nil]
    · rintro (finish | nonempty)
      · rwa [List.append_nil]
      · exact absurd rfl nonempty
  | cons field tables next =>
    have first := h field List.mem_cons_self
    have fresh : field.1 ∉ items.map (·.1) := fun found =>
      (List.nodup_append.1 distinct).2.2 _ found _ List.mem_cons_self rfl
    obtain ⟨b', node, builds, finished, finish⟩ := first.exists_node arranged
      (short (List.cons_ne_nil field tables)) (fun inner => ih inner field.1) frame fresh holds
    obtain ⟨b'', more, builds', finished', holds', finish'⟩ :=
      next (fun field hf => h field (List.mem_cons_of_mem _ hf)) (fun _ => short (List.cons_ne_nil field tables))
        (by simpa using distinct) (holds_of_finish frame finish)
    refine ⟨b'', (field.1, node) :: more, ?_, ?_, ?_, fun _ => ?_⟩
    · rw [writeSections, if_pos first.isSection]
      exact builds.append builds'
    · rw [finishItems, finished, finished']
    · rwa [List.append_assoc] at holds'
    · have last := finish' (.inl finish)
      rwa [List.append_assoc] at last

/-- Plain values are not written among the tables. -/
theorem writeSections_append (path : List String) (inline : ∀ field ∈ plain, field.2.isSection = false)
    (tables : List (String × Toml)) : writeSections path (plain ++ tables) = writeSections path tables := by
  induction plain with
  | nil => rfl
  | cons field plain ih =>
    rw [List.cons_append, writeSections, inline field List.mem_cons_self, if_neg Bool.false_ne_true, List.nil_append]
    exact ih fun field hf => inline field (List.mem_cons_of_mem _ hf)

theorem finishItems_append (items more : Items) :
    finishItems (items ++ more) = finishItems items ++ finishItems more := by
  induction items with
  | nil => rw [finishItems, List.nil_append, List.nil_append]
  | cons item items ih => rw [List.cons_append, finishItems, finishItems, ih, List.cons_append]

theorem finishItems_plain (plain : List (String × Toml)) :
    finishItems (plain.map fun field => (field.1, .value field.2)) = plain := by
  induction plain with
  | nil => rw [List.map_nil, finishItems]
  | cons field plain ih => rw [List.map_cons, finishItems, Node.finish, ih]

/-- Fields are read back if the tables in them are. -/
theorem Arranged.readsBack (h : Arranged nested fields)
    (arranged : ∀ inner, nested inner → ∃ nested', Arranged nested' inner)
    (short : (∃ field ∈ fields, IsTables nested field.2) → path.length + 1 < depthLimit)
    (ih : ∀ inner key, nested inner → ReadsBack inner (path ++ [key])) : ReadsBack fields path := by
  intro implicit context b frame holds
  obtain ⟨tables, split, inline, others⟩ := h.eq_append
  have items : (plainItems fields).map (·.1) = (plainFields fields).map (·.1) := by
    rw [plainItems, List.map_map]
    rfl
  have distinct : ((plainItems fields).map (·.1) ++ tables.map (·.1)).Nodup := by
    rw [items, ← List.map_append, ← split]
    exact h.distinct
  have mem (field : String × Toml) (hf : field ∈ tables) : field ∈ fields := split ▸ List.mem_append_right _ hf
  have short' : tables ≠ [] → path.length + 1 < depthLimit := by
    intro nonempty
    obtain ⟨field, more, rfl⟩ := List.exists_cons_of_ne_nil nonempty
    exact short ⟨field, mem field List.mem_cons_self, others field List.mem_cons_self⟩
  obtain ⟨b', more, builds, finished, holds', finish⟩ :=
    exists_tables others arranged short' ih frame distinct holds
  refine ⟨b', plainItems fields ++ more, ?_, ?_, holds', ?_⟩
  · rw [split, writeSections_append path fun field hf => (inline field hf).isSection]
    exact builds
  · rw [finishItems_append, plainItems, finishItems_plain, finished, ← split]
  · rintro (start | ⟨field, hf, isSection⟩)
    · exact finish (.inl start)
    · refine finish (.inr ?_)
      rintro rfl
      rw [List.append_nil] at split
      rw [split] at hf
      rw [(inline field hf).isSection] at isSection
      cases isSection

theorem Canonical.arranged {depth : Nat} (h : Canonical depth fields) : ∃ nested, Arranged nested fields := by
  cases depth with
  | zero => exact ⟨_, h⟩
  | succ depth => exact ⟨_, h⟩

/-- **Tables are read back**, however deep they are nested. -/
theorem Canonical.readsBack {depth : Nat} (h : Canonical depth fields) (short : path.length + depth < depthLimit) :
    ReadsBack fields path := by
  induction depth generalizing fields path with
  | zero =>
    have noTables : (∃ field ∈ fields, IsTables (fun _ => False) field.2) → path.length + 1 < depthLimit := by
      rintro ⟨field, -, ⟨inner, -, none⟩ | ⟨rows, -, nonempty, none⟩⟩
      · exact none.elim
      · obtain ⟨row, more, rfl⟩ := List.exists_cons_of_ne_nil nonempty
        exact (none row List.mem_cons_self).elim
    exact Arranged.readsBack h (fun _ none => none.elim) noTables fun _ _ none => none.elim
  | succ depth ih =>
    refine Arranged.readsBack h (fun inner => Canonical.arranged) (fun _ => by omega) fun inner key hn => ih hn ?_
    rw [List.length_append, List.length_singleton]
    omega

end Tables

/-- What is written of a document builds it again. -/
theorem Canonical.builds {depth : Nat} {fields : List (String × Toml)} (h : Canonical depth fields)
    (short : depth < depthLimit) :
    ∃ b items, Builds (writeTables [] (.table fields)) .start b ∧ b.finish = some ⟨false, false, items⟩ ∧
      finishItems items = fields := by
  obtain ⟨nested, arranged⟩ := h.arranged
  have head : Builds (writeHead ⟨[], false⟩ fields) .start
      { Builder.start with current := ⟨false, false, plainItems fields⟩ } := by
    by_cases noPlain : writePlain fields = ""
    · rw [plainItems_of_writePlain noPlain]
      simp only [writeHead, noPlain]
      exact builds_nil _
    · simp only [writeHead, List.isEmpty_nil, if_true, if_neg noPlain]
      exact builds_singleton arranged.reads_writePlain (@add_plain _ .start false [] rfl arranged.distinct_plainFields)
  obtain ⟨b, items, builds, finished, -, finish⟩ := @Canonical.readsBack fields [] depth h (by simpa using short)
    false id { Builder.start with current := ⟨false, false, plainItems fields⟩ } Section.frame_root
    (holds_of_finish Section.frame_root rfl)
  refine ⟨b, items, ?_, finish (.inl rfl), finished⟩
  rw [writeTables]
  exact head.append builds

/-- A text that is read as lines that build a document defines what that document holds. -/
theorem parse?_of_reads {text : String} {b : Builder} {items : Items} (read : Reads text.toList lines)
    (add : lines.foldlM Builder.add .start = some b) (finish : b.finish = some ⟨false, false, items⟩) :
    parse? text = some (finishItems items) := by
  obtain ⟨left, enough, whole⟩ := read [] (text.toList.length + 1) (by simp)
  have noMark := read.head?_ne
  have all : readLines (text.toList.length + 1) text.toList = some lines := by
    obtain ⟨left, rfl⟩ : ∃ n, left = n + 1 := ⟨left - 1, by rw [List.length_nil] at enough; omega⟩
    rw [List.append_nil] at whole
    rw [whole]
    exact congrArg some (List.append_nil lines)
  have noSkip : parse? text = (readLines (text.toList.length + 1) text.toList).bind ofLines? := by
    unfold parse?
    dsimp only
    split
    · rename_i he
      rw [he] at noMark
      exact absurd rfl noMark
    · rfl
  rw [noSkip, all, Option.bind_some, ofLines?, add]
  simp only [Option.bind_eq_bind, Option.bind_some, finish, Option.pure_def]

/-- **A document is read back.** -/
theorem parse?_write {depth : Nat} {fields : List (String × Toml)} (h : Canonical depth fields)
    (short : depth < depthLimit) : parse? (write fields ++ "\n") = some fields := by
  obtain ⟨b, items, ⟨lines, read, add⟩, finish, finished⟩ := h.builds short
  have text : (write fields ++ "\n").toList =
        ((writeTables [] (.table fields)).flatMap fun block => block.toList ++ ['\n']) ∨
      (write fields ++ "\n").toList =
        '\n' :: (writeTables [] (.table fields)).flatMap fun block => block.toList ++ ['\n'] := by
    rw [write, String.toList_append, String.toList_intercalate]
    generalize writeTables [] (.table fields) = blocks
    cases blocks with
    | nil => exact .inr rfl
    | cons block blocks =>
      refine .inl ?_
      induction blocks generalizing block with
      | nil => simp
      | cons next blocks ih =>
        rw [List.map_cons, List.map_cons, List.intercalate_cons_cons, List.append_assoc, List.append_assoc,
          ← List.map_cons, ih]
        simp
  rcases text with text | text
  · rw [← text] at read
    rw [parse?_of_reads read add finish, finished]
  · have read' := reads_newline.append read
    rw [List.singleton_append, ← text] at read'
    rw [parse?_of_reads read' add finish, finished]

/-! ## Order -/

/-- The fields in the order in which they are written. -/
def plainFirst (fields : List (String × Toml)) : List (String × Toml) :=
  plainFields fields ++ fields.filter fun field => field.2.isSection

section Order

variable {fields : List (String × Toml)}

theorem plainFields_plainFirst (fields : List (String × Toml)) :
    plainFields (plainFirst fields) = plainFields fields := by
  rw [plainFirst, plainFields, plainFields, List.filter_append, List.filter_filter, List.filter_filter]
  simp

theorem writeSections_filter (path : List String) (fields : List (String × Toml)) :
    writeSections path (fields.filter fun field => field.2.isSection) = writeSections path fields := by
  induction fields with
  | nil => rfl
  | cons field fields ih =>
    by_cases isSection : field.2.isSection = true
    · rw [List.filter_cons, if_pos isSection, writeSections, writeSections, ih]
    · rw [List.filter_cons, if_neg isSection, writeSections, if_neg isSection, ih, List.nil_append]

/-- The order of fields does not show beyond that of the plain ones and that of the tables. -/
theorem write_plainFirst (fields : List (String × Toml)) : write (plainFirst fields) = write fields := by
  have plain : writePlain (plainFirst fields) = writePlain fields := by
    rw [← String.toList_inj, toList_writePlain, toList_writePlain, plainFields_plainFirst]
  have tables : writeSections [] (plainFirst fields) = writeSections [] fields := by
    rw [plainFirst, writeSections_append [] (fun field hf => by simpa using (List.mem_filter.1 hf).2),
      writeSections_filter]
  rw [write, write, writeTables, writeTables, tables]
  simp [writeHead, plain]

theorem plainFirst_perm (fields : List (String × Toml)) : (plainFirst fields).Perm fields := by
  have split := List.filter_append_perm (fun field : String × Toml => !field.2.isSection) fields
  simp only [Bool.not_not] at split
  exact split

theorem distinct_plainFirst (distinct : (fields.map (·.1)).Nodup) : ((plainFirst fields).map (·.1)).Nodup :=
  ((plainFirst_perm fields).map (·.1)).nodup_iff.2 distinct

/-- What is found under a key does not depend on the order of the fields. -/
theorem lookup_plainFirst (distinct : (fields.map (·.1)).Nodup) (key : String) :
    lookup key (plainFirst fields) = lookup key fields := by
  refine Option.ext fun v => ?_
  rw [lookup, lookup, NameMap.find?_eq_some_iff_mem distinct,
    NameMap.find?_eq_some_iff_mem (distinct_plainFirst distinct), (plainFirst_perm fields).mem_iff]

/-- Fields that can be written are arranged if the plain ones come first. -/
theorem arranged_plainFirst {nested : List (String × Toml) → Prop} (distinct : (fields.map (·.1)).Nodup)
    (each : ∀ field ∈ fields, IsInline (depthLimit - 1) field.2 ∨ IsTables nested field.2) :
    Arranged nested (plainFirst fields) := by
  refine ⟨distinct_plainFirst distinct, _, _, rfl, fun field hf => ?_, fun field hf => ?_⟩
  · obtain ⟨hf, plain⟩ := List.mem_filter.1 hf
    refine (each field hf).resolve_right fun tables => ?_
    rw [tables.isSection] at plain
    cases plain
  · obtain ⟨hf, isSection⟩ := List.mem_filter.1 hf
    refine (each field hf).resolve_left fun inline => ?_
    rw [inline.isSection] at isSection
    cases isSection

end Order

end MockCluster.Toml
