import MockCluster.Toml.Document
import MockCluster.Toml.Printer

/-!
# Strings, written and read

A string is written in one of four styles: between double quotes or between apostrophes, on one line or over several
lines. What can stand between the quotes is told by `Spells`, one constructor for each way to write a character:

| character         | `"` on a line | `"` on lines    | `'` on a line | `'` on lines    |
|-------------------|---------------|-----------------|---------------|-----------------|
| printable, tab    | `char`        | `char`          | `char`        | `char`          |
| line feed         | `escape`      | `char`          |               | `char`          |
| the quote         | `escape`      | `quote`, twice  |               | `quote`, twice  |
| backslash         | `escape`      | `escape`        | `char`        | `char`          |
| other control     | `escape`      | `escape`        |               |                 |

Both ends are compared with it: what the writer puts between quotes spells the text (`spells_escapeText`,
`spells_literal`), and the reader finds the text in whatever spells it (`Spells.basicString`, `Spells.literalString`,
`Spells.longString`). So a string is read back (`readString_writeString`), whatever style was chosen. A string over
several lines may end in its own quote, so what follows must not begin with one.
-/

namespace MockCluster.Toml

/-- How a text is spelled between quotes of a kind, on one line or over several lines, behind `run` quotes that belong
to the text as well. -/
inductive Spells (quote : Char) (lines : Bool) : (run : Nat) → (written text : List Char) → Prop
  | nothing {run : Nat} : Spells quote lines run [] []
  /-- A character stands for itself. -/
  | char {run : Nat} {c : Char} {written text : List Char} (other : c ≠ quote) (bare : quote = '"' → c ≠ '\\')
      (plain : isPlain c = true ∨ lines = true ∧ c = '\n') (more : Spells quote lines 0 written text) :
      Spells quote lines run (c :: written) (c :: text)
  /-- Over several lines up to two quotes may stand together. -/
  | quote {run : Nat} {written text : List Char} (room : lines = true ∧ run < 2)
      (more : Spells quote lines (run + 1) written text) : Spells quote lines run (quote :: written) (quote :: text)
  /-- Between double quotes a character may be escaped. -/
  | escape {run : Nat} {c : Char} (code : List Char) {written text : List Char} (double : quote = '"')
      (stands : ∀ rest, escape (code ++ rest) = some (c, rest)) (inLine : ∀ rest, joinLines? (code ++ rest) = none)
      (more : Spells quote lines 0 written text) : Spells quote lines run ('\\' :: (code ++ written)) (c :: text)

variable {quote : Char} {lines : Bool} {run : Nat} {written text done rest : List Char} {fuel : Nat}

/-- A string on one line between double quotes is read up to its closing quote. -/
theorem Spells.basicString (h : Spells '"' false run written text) (enough : written.length < fuel) :
    basicString fuel done (written ++ '"' :: rest) = some (String.ofList (done.reverse ++ text), rest) := by
  induction h generalizing done fuel with
  | nothing =>
    obtain ⟨fuel, rfl⟩ := Nat.exists_eq_add_of_lt enough
    simp [Toml.basicString]
  | @char run c written text other bare plain more ih =>
    rw [List.length_cons] at enough
    obtain ⟨fuel, rfl⟩ : ∃ n, fuel = n + 1 := ⟨fuel - 1, by omega⟩
    have hp : isPlain c = true := by simpa using plain
    have : Toml.basicString (fuel + 1) done (c :: (written ++ '"' :: rest)) =
        Toml.basicString fuel (c :: done) (written ++ '"' :: rest) := by
      rw [Toml.basicString.eq_def]
      split <;> simp_all
    rw [List.cons_append, this, ih (by omega), List.reverse_cons, List.append_assoc, List.singleton_append]
  | quote room => cases room.1
  | @escape run c code written text double stands inLine more ih =>
    rw [List.length_cons, List.length_append] at enough
    obtain ⟨fuel, rfl⟩ : ∃ n, fuel = n + 1 := ⟨fuel - 1, by omega⟩
    rw [List.cons_append, List.append_assoc, Toml.basicString.eq_def]
    simp only [stands]
    rw [ih (by omega), List.reverse_cons, List.append_assoc, List.singleton_append]

/-- A text is spelled by itself between apostrophes. -/
theorem Spells.eq_of_literal (h : Spells '\'' lines run written text) : written = text := by
  induction h with
  | nothing => rfl
  | char _ _ _ _ ih => rw [ih]
  | quote _ _ ih => rw [ih]
  | escape _ double => cases double

theorem Spells.literalString (h : Spells '\'' false run written text) :
    literalString (written ++ '\'' :: rest) = some (String.ofList text, rest) := by
  have content : (written ++ '\'' :: rest).takeWhile (fun c => c ≠ '\'' && isPlain c) = written := by
    rw [List.takeWhile_append_of_pos, List.takeWhile_cons_of_neg (by simp), List.append_nil]
    induction h with
    | nothing => simp
    | char other _ plain _ ih => simp_all
    | quote room => cases room.1
    | escape _ double => cases double
  simp only [Toml.literalString, content, List.drop_left]
  rw [h.eq_of_literal]

/-- Up to two quotes that another character follows belong to a string over several lines. -/
theorem longString_replicate (fuel : Nat) (done rest : List Char) (few : run < 3)
    (other : rest.head? ≠ some quote) (more : rest ≠ []) (enough : run + rest.length < fuel) :
    ∃ left, rest.length < left ∧ longString quote fuel done (List.replicate run quote ++ rest) =
      longString quote left (List.replicate run quote ++ done) rest := by
  cases run with
  | zero => exact ⟨fuel, by omega, rfl⟩
  | succ run =>
    obtain ⟨fuel, rfl⟩ : ∃ n, fuel = n + 1 := ⟨fuel - 1, by omega⟩
    refine ⟨fuel, by omega, ?_⟩
    have quotes : ((List.replicate run quote ++ rest).takeWhile (· = quote)).length = run := by
      rw [List.takeWhile_append_of_pos (by simp [List.mem_replicate])]
      cases rest with
      | nil => cases more rfl
      | cons c rest =>
        have hc : c ≠ quote := by simpa using other
        simp [hc]
    rw [List.replicate_succ, List.cons_append, longString, if_pos rfl]
    simp only [quotes, closingQuotes, if_pos (show 1 + run < 3 by omega)]
    rw [Nat.add_comm 1 run, ← List.replicate_succ, ← List.cons_append, ← List.replicate_succ]
    simp

/-- **A string over several lines is read up to its closing quotes.** They may follow on quotes of the string. -/
theorem Spells.longString (h : Spells quote true run written text) (few : run < 3) (hr : rest.head? ≠ some quote)
    (enough : run + written.length + rest.length + 3 < fuel) :
    longString quote fuel done
        (List.replicate run quote ++ (written ++ (List.replicate 3 quote ++ rest))) =
      some (String.ofList (done.reverse ++ (List.replicate run quote ++ text)), rest) := by
  induction h generalizing done fuel with
  | @nothing run =>
    obtain ⟨fuel, rfl⟩ : ∃ n, fuel = n + 1 := ⟨fuel - 1, by omega⟩
    have whole : List.replicate run quote ++ ([] ++ (List.replicate 3 quote ++ rest)) =
        quote :: (List.replicate (run + 2) quote ++ rest) := by
      rw [List.nil_append, ← List.append_assoc, List.replicate_append_replicate]
      rfl
    have quotes : ((List.replicate (run + 2) quote ++ rest).takeWhile (· = quote)).length = run + 2 := by
      rw [List.takeWhile_append_of_pos (by simp [List.mem_replicate])]
      cases rest with
      | nil => simp
      | cons c rest =>
        have hc : c ≠ quote := by simpa using hr
        simp [hc]
    rw [whole, Toml.longString, if_pos rfl]
    have kept : closingQuotes (1 + (run + 2)) = some run := by
      rw [closingQuotes, if_neg (by omega)]
      congr 1
      omega
    simp only [quotes, kept]
    rw [← List.cons_append, ← List.replicate_succ]
    simp
  | @char run c written text other bare plain more ih =>
    rw [List.length_cons] at enough
    obtain ⟨left, hl, he⟩ := longString_replicate fuel done (c :: (written ++ (List.replicate 3 quote ++ rest))) few
      (by simpa using other) (by simp) (by simp; omega)
    obtain ⟨left, rfl⟩ : ∃ n, left = n + 1 := ⟨left - 1, by omega⟩
    have noEscape : ¬(c = '\\' ∧ quote = '"') := fun h => bare h.2 h.1
    have read : Toml.longString quote (left + 1) (List.replicate run quote ++ done)
        (c :: (written ++ (List.replicate 3 quote ++ rest))) =
        Toml.longString quote left (c :: (List.replicate run quote ++ done))
          (written ++ (List.replicate 3 quote ++ rest)) := by
      rw [Toml.longString, if_neg other, if_neg noEscape]
      rcases plain with plain | ⟨-, rfl⟩
      · rw [if_pos plain]
      · rfl
    have tail := @ih (c :: (List.replicate run quote ++ done)) left (by omega) (by simp at hl; omega)
    rw [List.replicate_zero, List.nil_append] at tail
    rw [List.cons_append, he, read, tail]
    simp
  | @quote run written text room more ih =>
    rw [List.length_cons] at enough
    have tail := @ih done fuel (by omega) (by omega)
    rw [List.replicate_succ', List.append_assoc, List.append_assoc] at tail
    exact tail
  | @escape run c code written text double stands inLine more ih =>
    rw [List.length_cons, List.length_append] at enough
    subst double
    obtain ⟨left, hl, he⟩ := @longString_replicate '"' _ fuel done
      ('\\' :: (code ++ (written ++ (List.replicate 3 '"' ++ rest)))) few (by simp) (by simp) (by simp; omega)
    obtain ⟨left, rfl⟩ : ∃ n, left = n + 1 := ⟨left - 1, by omega⟩
    have read : Toml.longString '"' (left + 1) (List.replicate run '"' ++ done)
        ('\\' :: (code ++ (written ++ (List.replicate 3 '"' ++ rest)))) =
        Toml.longString '"' left (c :: (List.replicate run '"' ++ done))
          (written ++ (List.replicate 3 '"' ++ rest)) := by
      rw [Toml.longString]
      simp [inLine, stands]
    have tail := @ih (c :: (List.replicate run '"' ++ done)) left (by omega) (by simp at hl; omega)
    rw [List.replicate_zero, List.nil_append] at tail
    rw [List.cons_append, List.append_assoc, he, read, tail]
    simp

/-! ## Writing -/

/-- The digits of an escaped control character stand for it. -/
theorem escape_control {n : Nat} (hn : n < 128) (rest : List Char) :
    escape ('u' :: ((Bytes.hexDigits 4 n).map Char.toUpper ++ rest)) = some (Char.ofNat n, rest) := by
  have digits : ∀ n < 128, ((Bytes.hexDigits 4 n).map Char.toUpper).all (fun c => (Bytes.hexValue? c).isSome) ∧
      ((Bytes.hexDigits 4 n).map Char.toUpper).length = 4 ∧
      ((Bytes.hexDigits 4 n).map Char.toUpper).foldl (fun n c => n * 16 + (Bytes.hexValue? c).getD 0) 0 = n := by
    decide +kernel
  obtain ⟨hex, four, value⟩ := digits n hn
  generalize (Bytes.hexDigits 4 n).map Char.toUpper = ds at *
  rw [escape, hexEscape, List.take_left' four, List.drop_left' four, value, if_pos ⟨four, hex⟩]
  exact if_pos (Or.inl (by omega))

theorem isPlain_of_not_control {c : Char} (h : isControl c = false) : isPlain c = true ∨ c = '\n' := by
  simp only [isControl, isPlain] at *
  grind

/-- A character other than a double quote stands for itself or is escaped. -/
theorem Spells.escapeChar {c : Char} (other : c ≠ '"') (more : Spells '"' lines 0 written text) :
    Spells '"' lines run (escapeChar lines c ++ written) (c :: text) := by
  unfold Toml.escapeChar
  split
  · exact .escape ['b'] rfl (fun _ => rfl) (fun _ => rfl) more
  · exact .escape ['t'] rfl (fun _ => rfl) (fun _ => rfl) more
  · cases lines with
    | true => exact .char (by decide) (by decide) (.inr ⟨rfl, rfl⟩) more
    | false => exact .escape ['n'] rfl (fun _ => rfl) (fun _ => rfl) more
  · exact .escape ['f'] rfl (fun _ => rfl) (fun _ => rfl) more
  · exact .escape ['r'] rfl (fun _ => rfl) (fun _ => rfl) more
  · exact .escape ['\\'] rfl (fun _ => rfl) (fun _ => rfl) more
  · rename_i noEscape
    split
    · rename_i control
      have small : c.toNat < 128 := by
        rcases control with control | rfl
        · exact Nat.lt_trans control (by decide)
        · decide
      refine .escape ('u' :: (Bytes.hexDigits 4 c.toNat).map Char.toUpper) rfl (fun rest => ?_)
        (fun _ => rfl) more
      rw [List.cons_append, escape_control small, Char.ofNat_toNat]
    · rename_i printable
      refine .char other (fun _ => noEscape) (.inl ?_) more
      simp only [isPlain]
      grind

/-- A text with escapes spells that text. -/
theorem spells_escapeText (lines : Bool) (run : Nat) (text : List Char) :
    Spells '"' lines run (escapeText lines (if lines then 2 else 0) run text) text := by
  induction text generalizing run with
  | nil => exact .nothing
  | cons c text ih =>
    rw [escapeText]
    by_cases other : c ≠ '"'
    · rw [if_pos other]
      exact .escapeChar other (ih 0)
    obtain rfl : c = '"' := by simpa using other
    rw [if_neg other]
    by_cases room : run < if lines then 2 else 0
    · rw [if_pos room]
      cases lines with
      | true => exact .quote ⟨rfl, room⟩ (ih (run + 1))
      | false => exact absurd room (Nat.not_lt_zero run)
    · rw [if_neg room]
      exact .escape ['"'] rfl (fun _ => rfl) (fun _ => rfl) (ih 0)

theorem le_longestRun (c : Char) (run : Nat) (text : List Char) : run ≤ longestRun c run text := by
  induction text generalizing run with
  | nil => exact Nat.le_refl run
  | cons d text ih =>
    rw [longestRun]
    split
    · exact Nat.le_of_succ_le (ih (run + 1))
    · exact Nat.le_max_left ..

/-- A text without controls and without many apostrophes together spells itself between apostrophes. -/
theorem spells_literal (controls : text.any isControl = false)
    (few : longestRun '\'' run text ≤ if lines then 2 else 0) (inLine : lines = false → '\n' ∉ text) :
    Spells '\'' lines run text text := by
  induction text generalizing run with
  | nil => exact .nothing
  | cons c text ih =>
    rw [List.any_cons, Bool.or_eq_false_iff] at controls
    rw [longestRun] at few
    have inRest : lines = false → '\n' ∉ text := fun h hn => inLine h (List.mem_cons_of_mem c hn)
    by_cases apostrophe : c = '\''
    · rw [if_pos apostrophe] at few
      subst apostrophe
      have room := Nat.le_trans (le_longestRun '\'' (run + 1) text) few
      cases lines with
      | true => exact .quote ⟨rfl, room⟩ (ih controls.2 few inRest)
      | false => exact absurd room (Nat.not_succ_le_zero run)
    · rw [if_neg apostrophe] at few
      refine .char apostrophe (by simp) ?_ (ih controls.2 (Nat.le_trans (Nat.le_max_right ..) few) inRest)
      rcases isPlain_of_not_control controls.1 with plain | rfl
      · exact .inl plain
      · cases lines with
        | true => exact .inr ⟨rfl, rfl⟩
        | false => exact absurd List.mem_cons_self (inLine rfl)

/-! ## Reading -/

/-- What follows a string does not begin with a quote. -/
def Unquoted (rest : List Char) : Prop := rest.head? ≠ some '"' ∧ rest.head? ≠ some '\''

/-- On one line, what is between the quotes does not begin with one. -/
theorem Spells.head?_ne (h : Spells quote false run written text) (hr : rest.head? ≠ some quote) :
    ∀ more, written ++ quote :: rest ≠ quote :: quote :: more := by
  intro more he
  cases h with
  | nothing =>
    rw [List.nil_append, List.cons.injEq] at he
    exact hr (by rw [he.2]; rfl)
  | char other => exact other (List.cons.inj he).1
  | quote room => cases room.1
  | escape _ double =>
    subst double
    exact absurd (List.cons.inj he).1 (by decide)

theorem readString_basic (h : Spells '"' false 0 written text) (hr : Unquoted rest) :
    readString ('"' :: (written ++ '"' :: rest)) = some (String.ofList text, rest) := by
  have three := h.head?_ne hr.1
  rw [readString.eq_def]
  split
  · rename_i more he
    exact absurd (List.cons.inj he).2 (three more)
  · rename_i he
    cases he
  · rename_i he
    obtain ⟨-, rfl⟩ := List.cons.inj he
    exact h.basicString (by rw [List.length_append]; omega)
  · rename_i he
    cases he
  · rename_i basic _
    exact absurd rfl (basic _)

theorem readString_literal (h : Spells '\'' false 0 written text) (hr : Unquoted rest) :
    readString ('\'' :: (written ++ '\'' :: rest)) = some (String.ofList text, rest) := by
  have three := h.head?_ne hr.2
  rw [readString.eq_def]
  split
  · rename_i he
    cases he
  · rename_i more he
    exact absurd (List.cons.inj he).2 (three more)
  · rename_i he
    cases he
  · rename_i he
    obtain ⟨-, rfl⟩ := List.cons.inj he
    exact h.literalString
  · rename_i literal
    exact absurd rfl (literal _)

/-- Whether a string over several lines begins on a new line depends on its text only. -/
theorem Spells.lineEnd?_eq_none (h : Spells quote true 0 written text) (single : '\n' ∉ text)
    (kind : quote = '"' ∨ quote = '\'') : lineEnd? (written ++ (List.replicate 3 quote ++ rest)) = none := by
  have other {c : Char} (more : List Char) (feed : c ≠ '\n') (back : c ≠ '\r') : lineEnd? (c :: more) = none := by
    unfold lineEnd?
    grind
  have begun (more : List Char) : lineEnd? (quote :: more) = none := by
    rcases kind with rfl | rfl <;> rfl
  cases h with
  | nothing => exact begun _
  | char _ _ plain =>
    rcases plain with plain | ⟨-, rfl⟩
    · refine other _ ?_ ?_ <;> rintro rfl <;> cases plain
    · exact absurd List.mem_cons_self single
  | quote => exact begun _
  | escape _ double => exact other _ (by decide) (by decide)

theorem readString_lines (h : Spells quote true 0 written text) (hr : Unquoted rest)
    (kind : quote = '"' ∨ quote = '\'') :
    readString (List.replicate 3 quote ++
        ((if '\n' ∈ text then ['\n'] else []) ++ (written ++ (List.replicate 3 quote ++ rest)))) =
      some (String.ofList text, rest) := by
  have opened : (lineEnd? ((if '\n' ∈ text then ['\n'] else []) ++ (written ++ (List.replicate 3 quote ++ rest)))).getD
      ((if '\n' ∈ text then ['\n'] else []) ++ (written ++ (List.replicate 3 quote ++ rest))) =
      written ++ (List.replicate 3 quote ++ rest) := by
    split
    · rfl
    · rename_i single
      rw [List.nil_append, h.lineEnd?_eq_none single kind, Option.getD_none]
  have enough : written.length + rest.length + 3 <
      ((if '\n' ∈ text then ['\n'] else []) ++ (written ++ (List.replicate 3 quote ++ rest))).length + 1 := by
    simp
    omega
  generalize (if '\n' ∈ text then ['\n'] else []) ++ (written ++ (List.replicate 3 quote ++ rest)) = after at *
  have hq : rest.head? ≠ some quote := by
    rcases kind with rfl | rfl
    · exact hr.1
    · exact hr.2
  have read := @Spells.longString quote 0 written text [] rest (after.length + 1) h (by omega) hq (by omega)
  rcases kind with rfl | rfl
  · exact (congrArg _ opened).trans read
  · exact (congrArg _ opened).trans read

theorem longestRun_eq_zero {c : Char} (h : longestRun c 0 text = 0) : c ∉ text := by
  induction text with
  | nil => exact List.not_mem_nil
  | cons d text ih =>
    rw [longestRun] at h
    split at h
    · have := le_longestRun c (0 + 1) text
      omega
    · rename_i other
      rintro (_ | ⟨_, found⟩)
      · exact other rfl
      · exact ih (by omega) found

/-- A style that keeps everything as it is can spell the text. -/
theorem StringStyle.spells_literal (plain : StringStyle.isPlain text .literal = true) :
    Spells '\'' false 0 text text := by
  simp only [StringStyle.isPlain, Bool.and_eq_true, Bool.not_eq_true', decide_eq_true_eq] at plain
  obtain ⟨controls, few, lines⟩ := plain
  exact Toml.spells_literal controls few fun _ => longestRun_eq_zero (Nat.le_zero.1 lines)

theorem StringStyle.spells_literalLines (plain : StringStyle.isPlain text .literalLines = true) :
    Spells '\'' true 0 text text := by
  simp only [StringStyle.isPlain, Bool.and_eq_true, Bool.not_eq_true', decide_eq_true_eq] at plain
  exact Toml.spells_literal plain.1 plain.2 fun single => absurd single (by decide)

/-- A text that is written in a style is read as that text, if the style can hold it as it is or has escapes. -/
theorem StringStyle.readString_write (style : StringStyle)
    (able : style.isPlain text = true ∨ style = .basic ∨ style = .basicLines) (hr : Unquoted rest) :
    readString ((style.write text).toList ++ rest) = some (String.ofList text, rest) := by
  unfold StringStyle.write
  rw [String.toList_ofList]
  cases style with
  | basic =>
    have read := readString_basic (spells_escapeText false 0 text) hr
    simpa using read
  | literal =>
    have plain : StringStyle.isPlain text .literal = true := by simpa using able
    have read := readString_literal (StringStyle.spells_literal plain) hr
    simpa using read
  | basicLines =>
    have read := readString_lines (spells_escapeText true 0 text) hr (.inl rfl)
    simpa using read
  | literalLines =>
    have plain : StringStyle.isPlain text .literalLines = true := by simpa using able
    have read := readString_lines (StringStyle.spells_literalLines plain) hr (.inr rfl)
    simpa using read

/-- **A string is read back.** -/
theorem readString_writeString (s : String) (hr : Unquoted rest) :
    readString ((writeString s).toList ++ rest) = some (s, rest) := by
  have able : (stringStyle s.toList).isPlain s.toList = true ∨ stringStyle s.toList = .basic ∨
      stringStyle s.toList = .basicLines := by
    unfold stringStyle
    split
    · rename_i found
      exact .inl (List.find?_some found)
    · split <;> simp
  have read := StringStyle.readString_write _ able hr
  rwa [String.ofList_toList] at read

end MockCluster.Toml
