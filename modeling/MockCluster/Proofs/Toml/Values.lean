import MockCluster.Proofs.Toml.Numbers
import MockCluster.Proofs.Toml.Strings

/-!
# Keys and values, written and read

Keys, strings, words and arrays tell each other apart by their first characters, and each has to know where it ends.
A key is followed by something that no bare key goes on with; a value is followed by the end of the line, a comma, or a
closing bracket (`Follows`). Between the elements of an array there may be blanks and line ends, so an element must
begin with something else (`Begins`). Under these conditions keys and values are read back (`readKey_intercalate`,
`readValue_writeValue`).

Arrays nest, and the reader limits how deep. The limit is the recursion of `readValue`, and `IsInline` counts down with
it.
-/

namespace MockCluster.Toml

variable {rest word text : List Char}

/-- A text that begins with something else than blanks, a comment or the end of a line or an array. -/
def Begins (text : List Char) : Prop :=
  ∃ c more, text = c :: more ∧ isBlank c = false ∧ c ≠ '#' ∧ c ≠ '\n' ∧ c ≠ '\r' ∧ c ≠ ']'

theorem Begins.append (h : Begins text) (rest : List Char) : Begins (text ++ rest) := by
  obtain ⟨c, more, rfl, other⟩ := h
  exact ⟨c, more ++ rest, rfl, other⟩

theorem Begins.skipBlanks (h : Begins text) : skipBlanks text = text := by
  obtain ⟨c, more, rfl, blank, -⟩ := h
  exact List.dropWhile_cons_of_neg (by simp [blank])

/-- Words and quoted strings begin so. -/
theorem begins_cons {c : Char} (hc : isWordChar c = true ∨ c = '"' ∨ c = '\'') (more : List Char) :
    Begins (c :: more) := by
  have other {d : Char} (word : isWordChar d = false) (double : d ≠ '"') (single : d ≠ '\'') : c ≠ d := by
    rintro rfl
    rcases hc with hc | hc | hc
    · rw [word] at hc
      cases hc
    · exact double hc
    · exact single hc
  have space : c ≠ ' ' := other (by decide) (by decide) (by decide)
  have tab : c ≠ '\t' := other (by decide) (by decide) (by decide)
  exact ⟨c, more, rfl, by simp [isBlank, space, tab], other (by decide) (by decide) (by decide),
    other (by decide) (by decide) (by decide), other (by decide) (by decide) (by decide),
    other (by decide) (by decide) (by decide)⟩

/-! ## Keys -/

/-- What a written key begins with. -/
theorem exists_writeKey (key : String) :
    ∃ c more, (writeKey key).toList = c :: more ∧ (isWordChar c = true ∨ c = '"' ∨ c = '\'') := by
  unfold writeKey
  dsimp only
  split
  · rename_i bare
    obtain ⟨c, more, he⟩ := List.exists_cons_of_ne_nil bare.1
    have hc := List.all_eq_true.1 bare.2 c (he ▸ List.mem_cons_self)
    refine ⟨c, more, he, .inl ?_⟩
    simp only [Bool.or_eq_true] at hc
    rcases hc with (hc | hc) | hc <;> simp [isWordChar, hc]
  · cases ([StringStyle.basic, .literal].find? (StringStyle.isPlain key.toList)).getD .basic <;>
      simp [StringStyle.write]

theorem begins_writeKey (key : String) : Begins (writeKey key).toList := by
  obtain ⟨c, more, he, hc⟩ := exists_writeKey key
  exact he ▸ begins_cons hc more

/-- **A part of a key is read back.** -/
theorem readKeyPart_writeKey (key : String) (hr : ∀ c, rest.head? = some c → isBareKeyChar c = false) :
    readKeyPart ((writeKey key).toList ++ rest) = some (key, rest) := by
  unfold writeKey
  dsimp only
  split
  · rename_i bare
    have inside : ∀ c ∈ key.toList, isBareKeyChar c = true := List.all_eq_true.1 bare.2
    have part := takeWhile_append_of_head? inside hr
    obtain ⟨c, more, he⟩ := List.exists_cons_of_ne_nil bare.1
    have hc := inside c (he ▸ List.mem_cons_self)
    rw [readKeyPart.eq_def]
    split
    · rename_i hq
      rw [he] at hq
      rw [(List.cons.inj hq).1] at hc
      cases hc
    · rename_i hq
      rw [he] at hq
      rw [(List.cons.inj hq).1] at hc
      cases hc
    · simpa [part] using bare.1
  · have style : ([StringStyle.basic, .literal].find? (StringStyle.isPlain key.toList)).getD .basic = .basic ∨
        ([StringStyle.basic, .literal].find? (StringStyle.isPlain key.toList)).getD .basic = .literal ∧
          StringStyle.isPlain key.toList .literal = true := by
      cases found : [StringStyle.basic, .literal].find? (StringStyle.isPlain key.toList) with
      | none => exact .inl rfl
      | some style =>
        have plain := List.find?_some found
        rcases List.mem_cons.1 (List.mem_of_find?_eq_some found) with rfl | hs
        · exact .inl rfl
        · obtain rfl := List.mem_singleton.1 hs
          exact .inr ⟨rfl, plain⟩
    rcases style with style | ⟨style, plain⟩
    · rw [style, StringStyle.write, String.toList_ofList, List.append_assoc, List.append_assoc]
      have spells := spells_escapeText false 0 key.toList
      have enough : (escapeText false 0 0 key.toList).length <
          (escapeText false 0 0 key.toList ++ '"' :: rest).length + 1 := by
        rw [List.length_append]
        omega
      have read := @Spells.basicString _ _ _ [] rest _ spells enough
      rwa [List.reverse_nil, List.nil_append, String.ofList_toList] at read
    · rw [style, StringStyle.write, String.toList_ofList, List.append_assoc, List.append_assoc]
      have read := @Spells.literalString _ _ _ rest (StringStyle.spells_literal plain)
      rwa [String.ofList_toList] at read

/-- The parts of a path are read back, with dots between them. -/
theorem readKeyParts_intercalate {path : List String} {fuel : Nat} (nonempty : path ≠ [])
    (enough : path.length ≤ fuel) (hr : ∀ c, rest.head? = some c → isBareKeyChar c = false)
    (hd : (skipBlanks rest).head? ≠ some '.') :
    readKeyParts fuel ((".".intercalate (path.map writeKey)).toList ++ rest) = some (path, skipBlanks rest) := by
  rw [String.toList_intercalate, List.map_map]
  induction path generalizing fuel with
  | nil => exact absurd rfl nonempty
  | cons key path ih =>
    obtain ⟨fuel, rfl⟩ : ∃ n, fuel = n + 1 := ⟨fuel - 1, by rw [List.length_cons] at enough; omega⟩
    have start (rest : List Char) := ((begins_writeKey key).append rest).skipBlanks
    cases path with
    | nil =>
      have single : ".".toList.intercalate ([key].map (String.toList ∘ writeKey)) = (writeKey key).toList :=
        List.append_nil _
      rw [single, readKeyParts, start, readKeyPart_writeKey key hr]
      dsimp only
      split
      · rename_i he
        rw [he] at hd
        exact absurd rfl hd
      · rfl
    | cons next path =>
      have several : ".".toList.intercalate ((key :: next :: path).map (String.toList ∘ writeKey)) ++ rest =
          (writeKey key).toList ++
            ('.' :: (".".toList.intercalate ((next :: path).map (String.toList ∘ writeKey)) ++ rest)) := by
        simp [List.intercalate_cons_cons]
      rw [several, readKeyParts, start, readKeyPart_writeKey key (by simp; decide)]
      have dot (text : List Char) : skipBlanks ('.' :: text) = '.' :: text := rfl
      simp only [dot]
      rw [ih (List.cons_ne_nil next path) (by simpa using enough), Option.map_some]

/-- **A key is read back**, with blanks behind it passed over. -/
theorem readKey_intercalate {path : List String} {key : String} (short : path.length + 1 < depthLimit)
    (hr : ∀ c, rest.head? = some c → isBareKeyChar c = false) (hd : (skipBlanks rest).head? ≠ some '.') :
    readKey ((".".intercalate ((path ++ [key]).map writeKey)).toList ++ rest) =
      some ((path, key), skipBlanks rest) := by
  rw [readKey, readKeyParts_intercalate (by simp) (by rw [List.length_append]; exact Nat.le_pred_of_lt short) hr hd]
  simp

/-! ## Values -/

/-- Values that are written on their own and not as tables, with brackets nested `depth` deep at most: strings, integers
of 64 bits, truth values, and arrays of them. -/
def IsInline : (depth : Nat) → Toml → Prop
  | _, .string _ => True
  | _, .integer n => inRange? n = some n
  | _, .boolean _ => True
  | depth + 1, .array items => ∀ v ∈ items, IsInline depth v
  | _, _ => False

/-- What may follow a value: the end of a line, a comma or a closing bracket. -/
def Follows (rest : List Char) : Prop := ∃ c more, rest = c :: more ∧ (c = '\n' ∨ c = ',' ∨ c = ']')

theorem Follows.unquoted (h : Follows rest) : Unquoted rest := by
  obtain ⟨c, more, rfl, rfl | rfl | rfl⟩ := h <;> exact ⟨by simp, by simp⟩

theorem Follows.isWordChar (h : Follows rest) : ∀ c, rest.head? = some c → isWordChar c = false := by
  obtain ⟨c, more, rfl, rfl | rfl | rfl⟩ := h <;> simp <;> decide

/-- A word is read up to where it ends. -/
theorem readWord_append {v : Toml} (inside : ∀ c ∈ word, isWordChar c = true) (read : ofWord? word = some v)
    (hr : Follows rest) : readWord (word ++ rest) = some (v, rest) := by
  have whole := takeWhile_append_of_head? inside hr.isWordChar
  simp only [readWord, whole, List.drop_left, read]
  obtain ⟨c, more, rfl, rfl | rfl | rfl⟩ := hr <;> rfl

/-- Strings begin with a quote of either kind. -/
theorem exists_writeString (s : String) :
    ∃ c more, (writeString s).toList = c :: more ∧ (c = '"' ∨ c = '\'') := by
  unfold writeString
  cases stringStyle s.toList <;> simp [StringStyle.write]

/-- An integer is written as a word. -/
theorem exists_repr (n : Int) :
    ∃ c more, n.repr.toList = c :: more ∧ ∀ d ∈ n.repr.toList, isWordChar d = true := by
  obtain ⟨negative, m, -, he⟩ := exists_signed n
  have digits := areDigits_toDigits m
  obtain ⟨c, more, hc⟩ := List.exists_cons_of_ne_nil (digits.signed_ne_nil negative)
  exact ⟨c, more, he.trans hc, he ▸ isWordChar_signed digits negative⟩

theorem readValue_quoted {c : Char} (hc : c = '"' ∨ c = '\'') (depth : Nat) (text : List Char) :
    readValue depth (c :: text) = (readString (c :: text)).map (Prod.map .string id) := by
  rcases hc with rfl | rfl
  · rw [readValue]
    rfl
  · rw [readValue]
    rfl

theorem readValue_word {c : Char} (hc : isWordChar c = true) (depth : Nat) (text : List Char) :
    readValue depth (c :: text) = readWord (c :: text) := by
  have other {d : Char} (hd : isWordChar d = false) : c ≠ d := by
    rintro rfl
    rw [hd] at hc
    cases hc
  have double : c ≠ '"' := other (by decide)
  have single : c ≠ '\'' := other (by decide)
  have bracket : c ≠ '[' := other (by decide)
  have brace : c ≠ '\x7b' := other (by decide)
  cases depth with
  | zero => simp [readValue, brace]
  | succ depth => simp [readValue, brace]

/-! ### Arrays -/

/-- There is nothing to pass over before a value or a bracket. -/
theorem skipLines?_of_begins (h : Begins text ∨ ∃ more, text = ']' :: more) (fuel : Nat) :
    skipLines? (fuel + 1) text = some text := by
  obtain ⟨c, more, rfl, blank, hash, feed, back⟩ : ∃ c more, text = c :: more ∧ isBlank c = false ∧ c ≠ '#' ∧
      c ≠ '\n' ∧ c ≠ '\r' := by
    rcases h with ⟨c, more, rfl, blank, hash, feed, back, -⟩ | ⟨more, rfl⟩
    · exact ⟨c, more, rfl, blank, hash, feed, back⟩
    · exact ⟨']', more, rfl, by decide⟩
  have start : skipBlanks (c :: more) = c :: more := List.dropWhile_cons_of_neg (by simp [blank])
  have noEnd : lineEnd? (c :: more) = none := by
    unfold lineEnd?
    grind
  rw [skipLines?, start]
  split
  · rename_i he
    exact absurd (List.cons.inj he).1 hash
  · simp [noEnd, back]

/-- An indented value and a closing bracket may stand on a new line. -/
theorem skipLines?_newline (h : Begins text ∨ ∃ more, text = ']' :: more) {indent : List Char}
    (blank : ∀ c ∈ indent, isBlank c = true) (fuel : Nat) :
    skipLines? (fuel + 2) ('\n' :: (indent ++ text)) = some text := by
  have line : skipLines? (fuel + 2) ('\n' :: (indent ++ text)) = skipLines? (fuel + 1) (indent ++ text) := rfl
  have same : skipBlanks (indent ++ text) = skipBlanks text := List.dropWhile_append_of_pos blank
  rw [line, ← skipLines?_of_begins h fuel, skipLines?, skipLines?, same]

section Items

variable {value : Reader Toml} {fuel : Nat} {done : List Toml} {v : Toml} {item : List Char}

theorem readItems_nil (skipped : skipLines? (text.length + 1) text = some (']' :: rest)) :
    readItems value (fuel + 1) done text = some (done.reverse, rest) := by
  simp [readItems, skipped]

/-- A value and a comma are taken off an array. -/
theorem readItems_cons (skipped : skipLines? (text.length + 1) text = some item) (begins : Begins item)
    (read : value item = some (v, ',' :: rest)) :
    readItems value (fuel + 1) done text = readItems value fuel (v :: done) rest := by
  obtain ⟨c, more, rfl, -, -, -, -, bracket⟩ := begins
  have comma : skipLines? (rest.length + 1 + 1) (',' :: rest) = some (',' :: rest) :=
    skipLines?_of_begins (.inl ⟨',', rest, rfl, by decide⟩) _
  simp [readItems, skipped, bracket, read, comma]

/-- A value and the closing bracket are taken off an array. -/
theorem readItems_singleton (skipped : skipLines? (text.length + 1) text = some item) (begins : Begins item)
    (read : value item = some (v, ']' :: rest)) :
    readItems value (fuel + 1) done text = some ((v :: done).reverse, rest) := by
  obtain ⟨c, more, rfl, -, -, -, -, bracket⟩ := begins
  have close : skipLines? (rest.length + 1 + 1) (']' :: rest) = some (']' :: rest) :=
    skipLines?_of_begins (.inr ⟨rest, rfl⟩) _
  simp [readItems, skipped, bracket, read, close]

end Items

/-- The elements of an array are read back from lines of their own. -/
theorem readItems_writeItems {value : Reader Toml} {items : List Toml} {fuel : Nat} (done : List Toml)
    (enough : items.length < fuel)
    (read : ∀ v ∈ items, Begins v.writeValue.toList ∧
      ∀ rest, Follows rest → value (v.writeValue.toList ++ rest) = some (v, rest)) :
    readItems value fuel done ((writeValue.writeItems items).toList ++ ('\n' :: ']' :: rest)) =
      some (done.reverse ++ items, rest) := by
  induction items generalizing done fuel with
  | nil =>
    obtain ⟨fuel, rfl⟩ : ∃ n, fuel = n + 1 := ⟨fuel - 1, by rw [List.length_nil] at enough; omega⟩
    rw [List.append_nil]
    exact readItems_nil (@skipLines?_newline (']' :: rest) (.inr ⟨rest, rfl⟩) [] (by simp) (rest.length + 1))
  | cons v items ih =>
    obtain ⟨fuel, rfl⟩ : ∃ n, fuel = n + 1 := ⟨fuel - 1, by rw [List.length_cons] at enough; omega⟩
    obtain ⟨begins, reads⟩ := read v List.mem_cons_self
    have lines : (writeValue.writeItems (v :: items)).toList ++ ('\n' :: ']' :: rest) =
        '\n' :: ([' ', ' ', ' ', ' '] ++ (v.writeValue.toList ++
          (',' :: ((writeValue.writeItems items).toList ++ ('\n' :: ']' :: rest))))) := by
      simp [writeValue.writeItems]
    rw [lines, readItems_cons ?_ (begins.append _) (reads _ ⟨',', _, rfl, .inr (.inl rfl)⟩),
      ih (v :: done) (by simpa using enough) fun v hv => read v (List.mem_cons_of_mem _ hv)]
    · simp
    · exact skipLines?_newline (.inl (begins.append _)) (List.all_eq_true.1 rfl) _

/-- A value that is written on its own begins with neither a blank nor the end of a line. -/
theorem begins_writeValue {depth : Nat} {v : Toml} (h : IsInline depth v) : Begins v.writeValue.toList := by
  cases v with
  | string s =>
    obtain ⟨c, more, he, hc⟩ := exists_writeString s
    rw [writeValue, he]
    exact begins_cons (.inr hc) more
  | integer n =>
    obtain ⟨c, more, he, hc⟩ := exists_repr n
    rw [writeValue, he]
    exact begins_cons (.inl (hc c (he ▸ List.mem_cons_self))) more
  | float literal => cases depth <;> cases h
  | boolean b => cases b <;> exact ⟨_, _, rfl, by decide⟩
  | datetime literal => cases depth <;> cases h
  | array items =>
    have bracket : ∃ more, (Toml.array items).writeValue.toList = '[' :: more := by
      unfold writeValue
      split <;> simp_all
    obtain ⟨more, he⟩ := bracket
    exact ⟨'[', more, he, by decide⟩
  | table fields => cases depth <;> cases h

theorem length_le_writeItems (items : List Toml) : items.length ≤ (writeValue.writeItems items).toList.length := by
  induction items with
  | nil => exact Nat.zero_le _
  | cons v items ih =>
    simp only [writeValue.writeItems, String.toList_append, List.length_append, List.length_cons]
    have : "\n    ".toList.length = 5 := rfl
    omega

/-- An array is read back if its elements are. -/
theorem readValue_array {depth : Nat} {items : List Toml}
    (read : ∀ v ∈ items, Begins v.writeValue.toList ∧
      ∀ rest, Follows rest → readValue depth (v.writeValue.toList ++ rest) = some (v, rest)) :
    readValue (depth + 1) ((Toml.array items).writeValue.toList ++ rest) = some (.array items, rest) := by
  have bracket (text : List Char) : readValue (depth + 1) ('[' :: text) =
      (readItems (readValue depth) (text.length + 1) [] text).map (Prod.map .array id) := by
    rw [readValue]
    rfl
  have enough := length_le_writeItems items
  rcases items with _ | ⟨v, _ | ⟨w, items⟩⟩
  · rfl
  · obtain ⟨begins, reads⟩ := read v List.mem_cons_self
    have text : (Toml.array [v]).writeValue.toList ++ rest = '[' :: (v.writeValue.toList ++ (']' :: rest)) := by
      simp [writeValue]
    have skipped := skipLines?_of_begins (.inl (begins.append (']' :: rest)))
      (v.writeValue.toList ++ (']' :: rest)).length
    rw [text, bracket, readItems_singleton skipped (begins.append _) (reads _ ⟨']', rest, rfl, .inr (.inr rfl)⟩)]
    rfl
  · have text : (Toml.array (v :: w :: items)).writeValue.toList ++ rest =
        '[' :: ((writeValue.writeItems (v :: w :: items)).toList ++ ('\n' :: ']' :: rest)) := by
      simp [writeValue]
    rw [text, bracket, readItems_writeItems [] (by rw [List.length_append]; omega) read]
    rfl

/-- A value other than an array is read back. -/
theorem readValue_scalar {depth : Nat} {v : Toml} (h : IsInline depth v) (scalar : ∀ items, v ≠ .array items)
    (hr : Follows rest) : readValue depth (v.writeValue.toList ++ rest) = some (v, rest) := by
  have word {text : List Char} (nonempty : text ≠ []) (inside : ∀ c ∈ text, isWordChar c = true)
      (read : ofWord? text = some v) : readValue depth (text ++ rest) = some (v, rest) := by
    obtain ⟨c, more, rfl⟩ := List.exists_cons_of_ne_nil nonempty
    rw [List.cons_append, readValue_word (inside c List.mem_cons_self), ← List.cons_append]
    exact readWord_append inside read hr
  cases v with
  | string s =>
    obtain ⟨c, more, he, hc⟩ := exists_writeString s
    rw [writeValue, he, List.cons_append, readValue_quoted hc, ← List.cons_append, ← he,
      readString_writeString s hr.unquoted]
    rfl
  | integer n =>
    obtain ⟨c, more, he, inside⟩ := exists_repr n
    have fits : inRange? n = some n := by cases depth <;> exact h
    rw [writeValue]
    exact word (by simp [he]) inside (ofWord?_repr fits)
  | boolean b =>
    cases b with
    | true => exact word (List.cons_ne_nil 't' _) (List.all_eq_true.1 rfl) rfl
    | false => exact word (List.cons_ne_nil 'f' _) (List.all_eq_true.1 rfl) rfl
  | array items => exact absurd rfl (scalar items)
  | float literal => cases depth <;> cases h
  | datetime literal => cases depth <;> cases h
  | table fields => cases depth <;> cases h

/-- **A value is read back.** -/
theorem readValue_writeValue {depth : Nat} {v : Toml} (h : IsInline depth v) (hr : Follows rest) :
    readValue depth (v.writeValue.toList ++ rest) = some (v, rest) := by
  induction depth generalizing v rest with
  | zero =>
    refine readValue_scalar h ?_ hr
    rintro items rfl
    cases h
  | succ depth ih =>
    by_cases scalar : ∀ items, v ≠ .array items
    · exact readValue_scalar h scalar hr
    · obtain ⟨items, rfl⟩ : ∃ items, v = .array items := by simpa using scalar
      exact readValue_array fun v hv => ⟨begins_writeValue (h v hv), fun rest hr => ih (h v hv) hr⟩

end MockCluster.Toml
