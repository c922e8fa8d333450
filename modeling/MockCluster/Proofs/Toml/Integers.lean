import MockCluster.Toml.Document

/-!
# Integers of documents

TOML has integers of 64 bits. The words that are read as integers are checked for that (`fits_of_ofWord?`), and integers
get into a document from nowhere else: arrays, inline tables and definitions only carry what was read. So all integers
of a document have 64 bits (`fits_of_parse?`). What was read from a document can therefore be written into one.
-/

namespace MockCluster.Toml

/-- Every integer in a value has 64 bits. -/
inductive Fits : Toml → Prop
  | string (s : String) : Fits (.string s)
  | integer {n : Int} (range : inRange? n = some n) : Fits (.integer n)
  | float (literal : String) : Fits (.float literal)
  | boolean (b : Bool) : Fits (.boolean b)
  | datetime (literal : String) : Fits (.datetime literal)
  | array {items : List Toml} (each : ∀ v ∈ items, Fits v) : Fits (.array items)
  | table {fields : List (String × Toml)} (each : ∀ field ∈ fields, Fits field.2) : Fits (.table fields)

/-- Every integer in something under construction has 64 bits. -/
inductive Node.Fits : Node → Prop
  | value {v : Toml} (fits : v.Fits) : Node.Fits (.value v)
  | table {implicit dotted : Bool} {items : List (String × Node)} (each : ∀ item ∈ items, Node.Fits item.2) :
      Node.Fits (.table implicit dotted items)
  | tables {tables : List (List (String × Node))} (each : ∀ items ∈ tables, ∀ item ∈ items, Node.Fits item.2) :
      Node.Fits (.tables tables)

variable {text rest : List Char} {v : Toml}

/-! ## Values -/

/-- All that a reader reads fits. -/
def ReadsFitting (value : Reader Toml) : Prop := ∀ text v rest, value text = some (v, rest) → v.Fits

theorem fits_of_ofWord? {word : List Char} (h : ofWord? word = some v) : v.Fits := by
  unfold ofWord? at h
  split at h
  · cases h
    exact .boolean _
  split at h
  · cases h
    exact .boolean _
  split at h
  · cases h
    exact .datetime _
  split at h
  · cases h
    exact .float _
  obtain ⟨n, read, rfl⟩ := Option.map_eq_some_iff.1 h
  have range {m : Int} (hm : inRange? m = some n) : inRange? n = some n := by
    unfold inRange? at hm ⊢
    split at hm <;> cases hm
    exact if_pos ‹_›
  refine .integer ?_
  unfold integer? at read
  split at read
  all_goals
    obtain ⟨ds, -, found⟩ := Option.bind_eq_some_iff.1 read
    exact range found

theorem readsFitting_readWord : ReadsFitting readWord := by
  intro text v rest h
  unfold readWord at h
  dsimp only at h
  split at h
  · split at h
    · split at h
      · cases h
        exact .datetime _
      · cases h
    · obtain ⟨w, read, he⟩ := Option.map_eq_some_iff.1 h
      cases he
      exact fits_of_ofWord? read
  · obtain ⟨w, read, he⟩ := Option.map_eq_some_iff.1 h
    cases he
    exact fits_of_ofWord? read

theorem fits_of_readItems {value : Reader Toml} (hv : ReadsFitting value) {fuel : Nat} {done items : List Toml}
    (hd : ∀ v ∈ done, v.Fits) (h : readItems value fuel done text = some (items, rest)) : ∀ v ∈ items, v.Fits := by
  induction fuel generalizing done text with
  | zero => cases h
  | succ fuel ih =>
    simp only [readItems, Option.bind_eq_bind, Option.bind_eq_some_iff] at h
    obtain ⟨text', -, h⟩ := h
    split at h
    · cases h
      simpa using hd
    · simp only [Option.bind_eq_some_iff] at h
      obtain ⟨⟨v, text''⟩, read, text''', -, h⟩ := h
      have more : ∀ w ∈ v :: done, w.Fits := by
        intro w hw
        rcases List.mem_cons.1 hw with rfl | hw
        · exact hv _ _ _ read
        · exact hd w hw
      split at h
      · exact ih more h
      · cases h
        simpa [or_comm] using more
      · cases h

/-! ## Tables under construction -/

namespace Section

/-- Every integer in a table under construction has 64 bits. -/
structure Fits (s : Section) : Prop where
  each : ∀ item ∈ s.items, item.2.Fits

variable {s s' child : Section} {path : List String} {key : String} {inner : Node}

theorem fits_nil (implicit dotted : Bool) : Fits ⟨implicit, dotted, []⟩ := ⟨fun _ hi => absurd hi List.not_mem_nil⟩

theorem Fits.node (h : s.Fits) : s.node.Fits := .table h.each

theorem Fits.get? (h : s.Fits) (found : s.get? key = some inner) : inner.Fits := by
  obtain ⟨item, hi, rfl⟩ := Option.map_eq_some_iff.1 found
  exact h.each item (List.mem_of_find?_eq_some hi)

theorem Fits.put (h : s.Fits) (key : String) (hn : inner.Fits) : (s.put key inner).Fits := by
  refine ⟨fun item hi => ?_⟩
  unfold Section.put at hi
  split at hi
  · obtain ⟨old, ho, rfl⟩ := List.mem_map.1 hi
    dsimp only
    split
    · exact hn
    · exact h.each old ho
  · rcases List.mem_append.1 hi with hi | hi
    · exact h.each item hi
    · rw [List.mem_singleton.1 hi]
      exact hn

/-- What is changed deep inside fits if what it is changed to does. -/
theorem Fits.descend {isDotted : Bool} {f : Section → Option Section}
    (hf : ∀ s s', Section.Fits s → f s = some s' → s'.Fits) (h : s.Fits) (he : s.descend isDotted f path = some s') :
    s'.Fits := by
  induction path generalizing s s' with
  | nil => exact hf s s' h he
  | cons key path ih =>
    unfold Section.descend at he
    split at he
    · obtain ⟨child, hc, rfl⟩ := Option.map_eq_some_iff.1 he
      exact h.put key (ih (fits_nil true isDotted) hc).node
    · cases he
    · rename_i tables found
      split at he
      · cases he
      · rename_i last hl
        obtain ⟨child, hc, rfl⟩ := Option.map_eq_some_iff.1 he
        cases h.get? found with
        | tables each =>
          refine h.put key (.tables fun items hi => ?_)
          rcases List.mem_append.1 hi with hi | hi
          · exact each items (List.dropLast_subset _ hi)
          · rw [List.mem_singleton.1 hi]
            exact (ih ⟨each last (List.mem_of_getLast? hl)⟩ hc).each
    · rename_i implicit dotted items found
      split at he
      · cases he
      · obtain ⟨child, hc, rfl⟩ := Option.map_eq_some_iff.1 he
        cases h.get? found with
        | table each => exact h.put key (ih ⟨each⟩ hc).node

theorem Fits.define (h : s.Fits) (hv : v.Fits) (he : s.define path key v = some s') : s'.Fits := by
  refine h.descend (fun s s' hs he => ?_) he
  split at he <;> cases he
  exact hs.put key (.value hv)

theorem Fits.close (h : s.Fits) (hc : child.Fits) (he : s.close path key child = some s') : s'.Fits := by
  refine h.descend (fun s s' hs he => ?_) he
  cases he
  exact hs.put key hc.node

theorem Fits.append (h : s.Fits) (hc : child.Fits) (he : s.append path key child = some s') : s'.Fits := by
  refine h.descend (fun s s' hs he => ?_) he
  split at he
  · cases he
    exact hs.put key (.tables fun items hi => List.mem_singleton.1 hi ▸ hc.each)
  · rename_i tables found
    cases he
    cases hs.get? found with
    | tables each =>
      refine hs.put key (.tables fun items hi => ?_)
      rcases List.mem_append.1 hi with hi | hi
      · exact each items hi
      · exact List.mem_singleton.1 hi ▸ hc.each
  · cases he

theorem Fits.opened (h : s.Fits) (he : s.opened path key = some s') : s'.Fits := by
  induction path generalizing s with
  | nil =>
    unfold Section.opened at he
    split at he
    · cases he
      exact fits_nil _ _
    · rename_i items found
      cases he
      cases h.get? found with
      | table each => exact ⟨each⟩
    · cases he
  | cons first path ih =>
    unfold Section.opened at he
    split at he
    · cases he
      exact fits_nil _ _
    · cases he
    · rename_i tables found
      split at he
      · cases he
      · rename_i last hl
        cases h.get? found with
        | tables each => exact ih ⟨each last (List.mem_of_getLast? hl)⟩ he
    · rename_i implicit dotted items found
      cases h.get? found with
      | table each => exact ih ⟨each⟩ he

end Section

theorem finishItems_eq_map (items : List (String × Node)) :
    finishItems items = items.map fun item => (item.1, item.2.finish) := by
  induction items with
  | nil => rw [finishItems, List.map_nil]
  | cons item items ih => rw [finishItems, ih, List.map_cons]

theorem finishTables_eq_map (tables : List (List (String × Node))) :
    finishTables tables = tables.map fun items => .table (finishItems items) := by
  induction tables with
  | nil => rw [finishTables, List.map_nil]
  | cons items tables ih => rw [finishTables, ih, List.map_cons]

theorem Node.Fits.finish {node : Node} (h : node.Fits) : node.finish.Fits := by
  induction h with
  | value fits => rwa [Node.finish]
  | table _ ih =>
    rw [Node.finish, finishItems_eq_map]
    refine .table fun field hf => ?_
    obtain ⟨item, hi, rfl⟩ := List.mem_map.1 hf
    exact ih item hi
  | tables _ ih =>
    rw [Node.finish, finishTables_eq_map]
    refine .array fun v hv => ?_
    obtain ⟨items, hi, rfl⟩ := List.mem_map.1 hv
    refine .table fun field hf => ?_
    rw [finishItems_eq_map] at hf
    obtain ⟨item, hitem, rfl⟩ := List.mem_map.1 hf
    exact ih items hi item hitem

/-! ## Documents -/

theorem fits_of_readPairs {value : Reader Toml} (hv : ReadsFitting value) {fuel : Nat} {s s' : Section} (hs : s.Fits)
    (h : readPairs value fuel s text = some (s', rest)) : s'.Fits := by
  induction fuel generalizing s text with
  | zero => cases h
  | succ fuel ih =>
    simp only [readPairs, Option.bind_eq_bind, Option.bind_eq_some_iff] at h
    obtain ⟨key, -, text', -, ⟨v, text''⟩, read, next, defined, h⟩ := h
    have more : next.Fits := hs.define (hv _ _ _ read) defined
    split at h
    · exact ih more h
    · cases h
      exact more
    · cases h

theorem readsFitting_readInlineTable {value : Reader Toml} (hv : ReadsFitting value) :
    ReadsFitting (readInlineTable value) := by
  intro text v rest h
  unfold readInlineTable at h
  split at h
  · cases h
    exact .table fun _ hf => absurd hf List.not_mem_nil
  · obtain ⟨⟨s, text'⟩, read, he⟩ := Option.map_eq_some_iff.1 h
    cases he
    exact (fits_of_readPairs hv (Section.fits_nil false false) read).node.finish

/-- Everything that can be read as a value. -/
theorem readValue_cases {depth : Nat} (h : readValue depth text = some (v, rest)) :
    (∃ s, v = .string s) ∨
    (∃ inner text items, depth = inner + 1 ∧ v = .array items ∧
      readItems (readValue inner) (text.length + 1) [] text = some (items, rest)) ∨
    (∃ inner text, depth = inner + 1 ∧ readInlineTable (readValue inner) text = some (v, rest)) ∨
    readWord text = some (v, rest) := by
  cases depth, text using readValue.fun_cases with
  | case1 =>
    rw [readValue] at h
    obtain ⟨s, -, he⟩ := Option.map_eq_some_iff.1 h
    cases he
    exact .inl ⟨_, rfl⟩
  | case2 =>
    rw [readValue] at h
    obtain ⟨s, -, he⟩ := Option.map_eq_some_iff.1 h
    cases he
    exact .inl ⟨_, rfl⟩
  | case3 => cases h
  | case4 inner text =>
    rw [readValue] at h
    obtain ⟨⟨items, text'⟩, read, he⟩ := Option.map_eq_some_iff.1 h
    cases he
    exact .inr (.inl ⟨inner, text, items, rfl, rfl, read⟩)
  | case5 text => simp [readValue] at h
  | case6 c text double single bracket brace =>
    rw [readValue.eq_5 c text double single bracket, if_neg brace] at h
    exact .inr (.inr (.inr h))
  | case7 inner text double single bracket =>
    rw [readValue.eq_6 inner _ text double single bracket, if_pos rfl] at h
    exact .inr (.inr (.inl ⟨inner, text, rfl, h⟩))
  | case8 inner c text double single bracket brace =>
    rw [readValue.eq_6 inner c text double single bracket, if_neg brace] at h
    exact .inr (.inr (.inr h))
  | case9 => simp [readValue] at h

/-- **Every integer that is read has 64 bits.** -/
theorem readsFitting_readValue (depth : Nat) : ReadsFitting (readValue depth) := by
  induction depth using Nat.strongRecOn with
  | ind depth ih =>
    intro text v rest h
    rcases readValue_cases h with ⟨s, rfl⟩ | ⟨inner, _, items, rfl, rfl, read⟩ | ⟨inner, _, rfl, read⟩ | word
    · exact .string s
    · exact .array (fits_of_readItems (ih inner (Nat.lt_succ_self inner)) (fun _ hv => absurd hv List.not_mem_nil) read)
    · exact readsFitting_readInlineTable (ih inner (Nat.lt_succ_self inner)) _ _ _ read
    · exact readsFitting_readWord _ _ _ word

/-- A line defines what fits. -/
def Line.Fits : Line → Prop
  | .definition _ _ v => v.Fits
  | _ => True

theorem fits_of_readLine {line : Line} (h : readLine text = some (line, rest)) : line.Fits := by
  have blank {text rest : List Char} {line : Line}
      (h : (endOfLine? text).map (Line.blank, ·) = some (line, rest)) : line.Fits := by
    obtain ⟨_, -, he⟩ := Option.map_eq_some_iff.1 h
    cases he
    trivial
  unfold readLine at h
  split at h
  · simp only [Option.bind_eq_bind, Option.bind_eq_some_iff, Option.pure_def, Option.some.injEq] at h
    obtain ⟨_, -, _, -, _, -, he⟩ := h
    cases he
    trivial
  · simp only [Option.bind_eq_bind, Option.bind_eq_some_iff, Option.pure_def, Option.some.injEq] at h
    obtain ⟨_, -, _, -, _, -, he⟩ := h
    cases he
    trivial
  · exact blank h
  · exact blank h
  · exact blank h
  · exact blank h
  · simp only [Option.bind_eq_bind, Option.bind_eq_some_iff, Option.pure_def, Option.some.injEq] at h
    obtain ⟨_, -, _, -, _, read, _, -, he⟩ := h
    cases he
    exact readsFitting_readValue _ _ _ _ read

theorem fits_of_readLines {fuel : Nat} {lines : List Line} (h : readLines fuel text = some lines) :
    ∀ line ∈ lines, line.Fits := by
  induction fuel generalizing text lines with
  | zero => cases h
  | succ fuel ih =>
    unfold readLines at h
    split at h
    · cases h
      exact fun _ hl => absurd hl List.not_mem_nil
    · split at h
      · cases h
      · rename_i first more read
        obtain ⟨lines, hl, rfl⟩ := Option.map_eq_some_iff.1 h
        intro line hline
        rcases List.mem_cons.1 hline with rfl | hline
        · exact fits_of_readLine read
        · exact ih hl line hline

/-- Every integer in a document under construction has 64 bits. -/
structure Builder.Fits (b : Builder) : Prop where
  closed : b.closed.Fits
  current : b.current.Fits

theorem Builder.Fits.finish {b : Builder} {s : Section} (h : b.Fits) (he : b.finish = some s) : s.Fits := by
  unfold Builder.finish at he
  split at he
  · cases he
    exact h.current
  · exact h.closed.close h.current he
  · exact h.closed.append h.current he

theorem Builder.Fits.add {b b' : Builder} {line : Line} (h : b.Fits) (hl : line.Fits) (he : b.add line = some b') :
    b'.Fits := by
  cases line with
  | blank =>
    cases he
    exact h
  | definition path key v =>
    obtain ⟨s, defined, rfl⟩ := Option.map_eq_some_iff.1 he
    exact ⟨h.closed, h.current.define hl defined⟩
  | header path key =>
    simp only [Builder.add, Option.bind_eq_bind, Option.bind_eq_some_iff, Option.pure_def, Option.some.injEq] at he
    obtain ⟨closed, finish, current, opened, rfl⟩ := he
    exact ⟨h.finish finish, (h.finish finish).opened opened⟩
  | arrayHeader path key =>
    simp only [Builder.add, Option.bind_eq_bind, Option.bind_eq_some_iff, Option.pure_def, Option.some.injEq] at he
    obtain ⟨closed, finish, rfl⟩ := he
    exact ⟨h.finish finish, Section.fits_nil false false⟩

theorem fits_of_ofLines? {lines : List Line} {fields : List (String × Toml)} (hl : ∀ line ∈ lines, line.Fits)
    (h : ofLines? lines = some fields) : ∀ field ∈ fields, field.2.Fits := by
  have added {b b' : Builder} {lines : List Line} (hb : b.Fits) (hl : ∀ line ∈ lines, line.Fits)
      (h : lines.foldlM Builder.add b = some b') : b'.Fits := by
    induction lines generalizing b with
    | nil =>
      cases h
      exact hb
    | cons line lines ih =>
      rw [List.foldlM_cons] at h
      obtain ⟨next, first, more⟩ := Option.bind_eq_some_iff.1 h
      exact ih (hb.add (hl line List.mem_cons_self) first) (fun line h => hl line (List.mem_cons_of_mem _ h)) more
  simp only [ofLines?, Option.bind_eq_bind, Option.bind_eq_some_iff, Option.pure_def, Option.some.injEq] at h
  obtain ⟨b, add, s, finish, rfl⟩ := h
  have start : Builder.start.Fits := ⟨Section.fits_nil false false, Section.fits_nil false false⟩
  have whole := (added start hl add).finish finish
  rw [finishItems_eq_map]
  intro field hf
  obtain ⟨item, hi, rfl⟩ := List.mem_map.1 hf
  exact (whole.each item hi).finish

/-- **Every integer of a document has 64 bits.** -/
theorem fits_of_parse? {text : String} {fields : List (String × Toml)} (h : parse? text = some fields) :
    ∀ field ∈ fields, field.2.Fits := by
  obtain ⟨lines, read, built⟩ := Option.bind_eq_some_iff.1 h
  exact fits_of_ofLines? (fits_of_readLines read) built

end MockCluster.Toml
