import MockCluster.Proofs.Toml.Values

/-!
# Lines, written and read

The lines of a document are read one after another, so what is written of it can be read in parts: `Reads` is closed
under concatenation (`Reads.append`), because it says how a text is read whatever comes behind it. Two kinds of lines
are written, definitions (`reads_definition`) and headers (`reads_line`). A written key begins with none of the
characters that tell the kinds of lines apart (`writeKey_append_ne`).
-/

namespace MockCluster.Toml

variable {text text' rest : List Char} {lines lines' : List Line} {line : Line}

/-- A text is read as some lines, whatever comes behind it. -/
def Reads (text : List Char) (lines : List Line) : Prop :=
  ∀ rest fuel, text.length + rest.length < fuel →
    ∃ left, rest.length < left ∧ readLines fuel (text ++ rest) = (readLines left rest).map (lines ++ ·)

theorem reads_nil : Reads [] [] := fun rest fuel enough => ⟨fuel, by simpa using enough, by simp⟩

theorem Reads.append (h : Reads text lines) (h' : Reads text' lines') : Reads (text ++ text') (lines ++ lines') := by
  intro rest fuel enough
  rw [List.length_append] at enough
  obtain ⟨between, hb, first⟩ := h (text' ++ rest) fuel (by rw [List.length_append]; omega)
  obtain ⟨left, hl, second⟩ := h' rest between (by rwa [List.length_append] at hb)
  refine ⟨left, hl, ?_⟩
  rw [List.append_assoc, first, second, Option.map_map]
  congr 1
  funext lines''
  simp

/-- A text is read as a line if that is what is read at its beginning. -/
theorem reads_singleton (start : ∀ rest, skipBlanks (text ++ rest) = text ++ rest) (nonempty : text ≠ [])
    (read : ∀ rest, readLine (text ++ rest) = some (line, rest)) : Reads text [line] := by
  intro rest fuel enough
  obtain ⟨c, more, rfl⟩ := List.exists_cons_of_ne_nil nonempty
  rw [List.length_cons] at enough
  obtain ⟨fuel, rfl⟩ : ∃ n, fuel = n + 1 := ⟨fuel - 1, by omega⟩
  refine ⟨fuel, by omega, ?_⟩
  have split := start rest
  have first := read rest
  rw [List.cons_append] at split first ⊢
  simp only [readLines, split, first, List.singleton_append]

theorem reads_newline : Reads ['\n'] [.blank] :=
  reads_singleton (fun _ => rfl) (List.cons_ne_nil _ _) fun _ => rfl

/-- The mark of byte order begins no line. -/
theorem Reads.head?_ne (h : Reads text lines) : text.head? ≠ some '\uFEFF' := by
  intro he
  obtain ⟨more, rfl⟩ := List.head?_eq_some_iff.1 he
  obtain ⟨left, enough, read⟩ := h [] (more.length + 2) (by simp)
  have nothing : readLines (more.length + 2) ('\uFEFF' :: more ++ []) = none := rfl
  obtain ⟨left, rfl⟩ : ∃ n, left = n + 1 := ⟨left - 1, by rw [List.length_nil] at enough; omega⟩
  rw [nothing] at read
  cases read

/-! ## Definitions and headers -/

/-- What a key does not begin with. -/
theorem writeKey_append_ne {key : String} {d : Char} {more : List Char} (word : isWordChar d = false)
    (double : d ≠ '"') (single : d ≠ '\'') : (writeKey key).toList ++ rest ≠ d :: more := by
  obtain ⟨c, tail, he, hc⟩ := exists_writeKey key
  intro same
  rw [he] at same
  obtain rfl := (List.cons.inj same).1
  rcases hc with hc | hc | hc
  · rw [word] at hc
    cases hc
  · exact double hc
  · exact single hc

/-- A definition of a value is read back. -/
theorem reads_definition (key : String) {v : Toml} (h : IsInline (depthLimit - 1) v) :
    Reads (writeKey key ++ " = " ++ v.writeValue ++ "\n").toList [.definition [] key v] := by
  have begins := begins_writeKey key
  have text (rest : List Char) : (writeKey key ++ " = " ++ v.writeValue ++ "\n").toList ++ rest =
      (writeKey key).toList ++ (' ' :: '=' :: ' ' :: (v.writeValue.toList ++ ('\n' :: rest))) := by
    simp
  refine reads_singleton (fun rest => ?_) (fun empty => ?_) fun rest => ?_
  · rw [text]
    exact (begins.append _).skipBlanks
  · have := text []
    rw [empty] at this
    simp at this
  rw [text]
  have name := @readKey_intercalate (' ' :: '=' :: ' ' :: (v.writeValue.toList ++ ('\n' :: rest))) [] key (by decide)
    (by simp; decide) (by simp [skipBlanks, isBlank])
  have value := @readValue_writeValue ('\n' :: rest) _ _ h ⟨'\n', rest, rfl, .inl rfl⟩
  have blanks : skipBlanks (' ' :: '=' :: ' ' :: (v.writeValue.toList ++ ('\n' :: rest))) =
      '=' :: ' ' :: (v.writeValue.toList ++ ('\n' :: rest)) := rfl
  have equals (text : List Char) : expect ['='] ('=' :: text) = some text := rfl
  have blank : skipBlanks (' ' :: (v.writeValue.toList ++ ('\n' :: rest))) = v.writeValue.toList ++ ('\n' :: rest) :=
    ((begins_writeValue h).append _).skipBlanks
  have lineEnd : endOfLine? ('\n' :: rest) = some rest := rfl
  have single : (".".intercalate (([] ++ [key]).map writeKey)).toList = (writeKey key).toList := by simp
  rw [blanks, single] at name
  -- The other kinds of lines begin with what no key begins with.
  unfold readLine
  split
  case h_7 => simp [name, equals, blank, value, lineEnd]
  case h_6 he => simp at he
  all_goals
    rename_i he
    exact absurd he (writeKey_append_ne (by decide) (by decide) (by decide))

/-- A path begins with a key. -/
theorem exists_intercalate (path : List String) (key : String) :
    ∃ first more, (".".intercalate ((path ++ [key]).map writeKey)).toList = (writeKey first).toList ++ more := by
  rw [String.toList_intercalate, List.map_map]
  rcases path with _ | ⟨first, path⟩
  · exact ⟨key, [], by simp⟩
  · obtain ⟨second, rest, he⟩ : ∃ second rest, path ++ [key] = second :: rest :=
      List.exists_cons_of_ne_nil (by simp)
    refine ⟨first, ".".toList ++ ".".toList.intercalate ((second :: rest).map (String.toList ∘ writeKey)), ?_⟩
    rw [List.cons_append, he, List.map_cons, List.map_cons, List.intercalate_cons_cons]
    exact List.append_assoc ..

/-- The header of a table is read back. -/
theorem reads_line {path : List String} (key : String) (short : path.length + 1 < depthLimit) (inArray : Bool) :
    Reads (Heading.line ⟨path ++ [key], inArray⟩).toList
      [if inArray then .arrayHeader path key else .header path key] := by
  obtain ⟨first, more, begins⟩ := exists_intercalate path key
  have name (rest : List Char) : readKey ((".".intercalate ((path ++ [key]).map writeKey)).toList ++ (']' :: rest)) =
      some ((path, key), ']' :: rest) :=
    readKey_intercalate short (by simp; decide) (by simp [skipBlanks, isBlank])
  have lineEnd (rest : List Char) : endOfLine? ('\n' :: rest) = some rest := rfl
  cases inArray with
  | true =>
    have text : (Heading.line ⟨path ++ [key], true⟩).toList = '[' :: '[' ::
        ((".".intercalate ((path ++ [key]).map writeKey)).toList ++ [']', ']', '\n']) := by
      simp [Heading.line]
    have close (rest : List Char) : expect [']', ']'] (']' :: ']' :: rest) = some rest := rfl
    rw [text]
    generalize (".".intercalate ((path ++ [key]).map writeKey)).toList = written at *
    refine reads_singleton (fun _ => rfl) (List.cons_ne_nil _ _) fun rest => ?_
    simp [readLine, name, close, lineEnd]
  | false =>
    have text : (Heading.line ⟨path ++ [key], false⟩).toList = '[' ::
        ((".".intercalate ((path ++ [key]).map writeKey)).toList ++ [']', '\n']) := by
      simp [Heading.line]
    have close (rest : List Char) : expect [']'] (']' :: rest) = some rest := rfl
    rw [text]
    generalize (".".intercalate ((path ++ [key]).map writeKey)).toList = written at *
    refine reads_singleton (fun _ => rfl) (List.cons_ne_nil _ _) fun rest => ?_
    have single (tail : List Char) : written ++ (']' :: '\n' :: rest) ≠ '[' :: tail := by
      rw [begins, List.append_assoc]
      exact writeKey_append_ne (by decide) (by decide) (by decide)
    simp [readLine, name, close, lineEnd]

end MockCluster.Toml
