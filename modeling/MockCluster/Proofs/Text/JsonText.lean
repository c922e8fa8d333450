import MockCluster.Proofs.Text.Digits
import MockCluster.Text.Json

/-!
# What a JSON text tells

No two values are printed with the same bytes (`Json.bytes_injective`), so whoever receives a text knows the value. A
value can be read from any text that begins with it, as long as what follows does not go on with a number:

| value | begins with | ends |
| --- | --- | --- |
| null, truth values | a letter of its own | with its last letter |
| integer | a digit or a minus sign | where another character follows |
| string | a quote | at the next quote, as those inside are escaped |
| array, object | a bracket, a brace | behind the last element, with a bracket or a brace |

Within a string no printed form of a character begins with a quote, and none begins another one
(`Json.escape_append_inj`). Within an array or an object, each value is followed by a comma or by the end.
-/

namespace MockCluster.Json

/-- The characters that are not printed as they are. -/
def escaped : List Char := '"' :: '\\' :: (List.range 32).map Char.ofNat

theorem escape_of_not_mem {c : Char} (h : c ∉ escaped) : escape c = [c] := by
  have printable : ¬c.toNat < 32 := by
    intro low
    refine h (.tail _ (.tail _ (List.mem_map.2 ⟨c.toNat, List.mem_range.2 low, ?_⟩)))
    exact Char.ofNat_toNat c
  unfold escape
  split
  all_goals first | exact if_neg printable | exact absurd (by decide) h

/-- The printed form of an escaped character begins with a backslash. -/
theorem exists_escape_of_mem : ∀ c ∈ escaped, ∃ tail, escape c = '\\' :: tail := by
  have heads : escaped.all (fun c => (escape c).head? = some '\\') = true := by decide +kernel
  intro c hc
  exact List.head?_eq_some_iff.1 (of_decide_eq_true (List.all_eq_true.1 heads c hc))

/-- No escaped form begins another one. -/
theorem escape_prefix_inj {c c' : Char} (hc : c ∈ escaped) (hc' : c' ∈ escaped) (h : escape c <+: escape c') :
    c = c' := by
  have pairs : escaped.all (fun c => escaped.all fun c' => (escape c).isPrefixOf (escape c') → c = c') = true := by
    decide +kernel
  have pair := of_decide_eq_true (List.all_eq_true.1 (List.all_eq_true.1 pairs c hc) c' hc')
  exact pair (List.isPrefixOf_iff_prefix.2 h)

/-- No printed character begins with a quote. -/
theorem escape_append_ne_quote (c : Char) (rest rest' : List Char) : escape c ++ rest ≠ '"' :: rest' := by
  intro h
  by_cases hc : c ∈ escaped
  · obtain ⟨tail, he⟩ := exists_escape_of_mem c hc
    rw [he] at h
    cases h
  · rw [escape_of_not_mem hc] at h
    obtain rfl : c = '"' := (List.cons.inj h).1
    exact hc List.mem_cons_self

/-- The characters that are printed as they are differ from the ones that begin with a backslash. -/
theorem escape_append_ne {c c' : Char} (hc : c ∈ escaped) (hc' : c' ∉ escaped) (rest rest' : List Char) :
    escape c ++ rest ≠ escape c' ++ rest' := by
  intro h
  obtain ⟨tail, he⟩ := exists_escape_of_mem c hc
  rw [he, escape_of_not_mem hc'] at h
  obtain rfl : '\\' = c' := (List.cons.inj h).1
  exact hc' (by decide)

/-- **The first character of a string can be read from its printed form.** -/
theorem escape_append_inj {c c' : Char} {rest rest' : List Char} (h : escape c ++ rest = escape c' ++ rest') :
    c = c' ∧ rest = rest' := by
  have same : c = c' := by
    by_cases hc : c ∈ escaped
    · by_cases hc' : c' ∈ escaped
      · have first : escape c <+: escape c' ++ rest' := h ▸ List.prefix_append ..
        rcases List.prefix_or_prefix_of_prefix first (List.prefix_append ..) with before | before
        · exact escape_prefix_inj hc hc' before
        · exact (escape_prefix_inj hc' hc before).symm
      · exact absurd h (escape_append_ne hc hc' rest rest')
    · by_cases hc' : c' ∈ escaped
      · exact absurd h.symm (escape_append_ne hc' hc rest' rest)
      · rw [escape_of_not_mem hc, escape_of_not_mem hc'] at h
        exact (List.cons.inj h).1
  subst same
  exact ⟨rfl, List.append_cancel_left h⟩

/-- The characters of a string can be read from the printed form up to the quote at its end. -/
theorem flatMap_escape_inj {s s' rest rest' : List Char}
    (h : s.flatMap escape ++ '"' :: rest = s'.flatMap escape ++ '"' :: rest') : s = s' := by
  induction s generalizing s' with
  | nil =>
    cases s' with
    | nil => rfl
    | cons c' s' =>
      rw [List.flatMap_cons, List.append_assoc] at h
      exact absurd h.symm (escape_append_ne_quote c' _ _)
  | cons c s ih =>
    cases s' with
    | nil =>
      rw [List.flatMap_cons, List.append_assoc] at h
      exact absurd h (escape_append_ne_quote c _ _)
    | cons c' s' =>
      rw [List.flatMap_cons, List.flatMap_cons, List.append_assoc, List.append_assoc] at h
      obtain ⟨same, left⟩ := escape_append_inj h
      rw [same, ih left]

/-- **A string can be read from a text that begins with it in quotes.** -/
theorem quote_append_inj {s s' : String} {rest rest' : List Char} (h : quote s ++ rest = quote s' ++ rest') :
    s = s' ∧ rest = rest' := by
  have opened := h
  simp only [quote, List.cons_append, List.append_assoc, List.cons.injEq, true_and] at opened
  obtain rfl := String.toList_injective (flatMap_escape_inj opened)
  exact ⟨rfl, List.append_cancel_left h⟩

section Values

/-- A value of this form begins with a character. -/
def begins : Json → Char → Bool
  | .null, c => c = 'n'
  | .bool true, c => c = 't'
  | .bool false, c => c = 'f'
  | .num _, c => isNumeral c
  | .str _, c => c = '"'
  | .arr _, c => c = '['
  | .obj _, c => c = '\x7b'

theorem exists_chars_eq_cons (v : Json) : ∃ c more, v.chars = c :: more ∧ v.begins c = true := by
  cases v with
  | num n =>
    obtain ⟨c, more, written⟩ := exists_repr_eq_cons n
    exact ⟨c, more, by rw [chars, written], isNumeral_of_mem_repr n c (written ▸ List.mem_cons_self)⟩
  | bool b => cases b <;> exact ⟨_, _, rfl, rfl⟩
  | _ => exact ⟨_, _, rfl, rfl⟩

/-- No value begins with the end of an array. -/
theorem chars_append_ne (v : Json) (rest rest' : List Char) : v.chars ++ rest ≠ ']' :: rest' := by
  obtain ⟨c, more, printed, first⟩ := v.exists_chars_eq_cons
  intro same
  rw [printed] at same
  obtain rfl : c = ']' := (List.cons.inj same).1
  rcases v with _ | (_ | _) | _ | _ | _ | _ <;> cases first

/-- Values of the same form, which are the same if there is nothing in them. -/
inductive SameForm : Json → Json → Prop
  | null : SameForm .null .null
  | bool (b : Bool) : SameForm (.bool b) (.bool b)
  | num (n n' : Int) : SameForm (.num n) (.num n')
  | str (s s' : String) : SameForm (.str s) (.str s')
  | arr (items items' : List Json) : SameForm (.arr items) (.arr items')
  | obj (fields fields' : List (String × Json)) : SameForm (.obj fields) (.obj fields')

/-- The first character tells the form. -/
theorem sameForm_of_begins {v v' : Json} {c : Char} (h : v.begins c = true) (h' : v'.begins c = true) :
    SameForm v v' := by
  rcases v with _ | (_ | _) | _ | _ | _ | _ <;> rcases v' with _ | (_ | _) | _ | _ | _ | _ <;>
    first
    | constructor
    | simp_all [begins, isNumeral]

theorem sameForm_of_append_eq {v v' : Json} {rest rest' : List Char} (same : v.chars ++ rest = v'.chars ++ rest') :
    SameForm v v' := by
  obtain ⟨c, more, printed, first⟩ := v.exists_chars_eq_cons
  obtain ⟨c', more', printed', first'⟩ := v'.exists_chars_eq_cons
  rw [printed, printed'] at same
  obtain rfl : c = c' := (List.cons.inj same).1
  exact sameForm_of_begins first first'

/-- What follows an element of an array. -/
def moreItems : List Json → List Char
  | [] => [']']
  | items => ',' :: itemsChars items

/-- What follows a field of an object. -/
def moreFields : List (String × Json) → List Char
  | [] => ['\x7d']
  | fields => ',' :: fieldsChars fields

theorem itemsChars_cons (v : Json) (items : List Json) : itemsChars (v :: items) = v.chars ++ moreItems items := by
  cases items <;> simp [itemsChars, moreItems]

theorem fieldsChars_cons (key : String) (v : Json) (fields : List (String × Json)) :
    fieldsChars ((key, v) :: fields) = quote key ++ ':' :: (v.chars ++ moreFields fields) := by
  cases fields <;> simp [fieldsChars, moreFields]

theorem delimits_moreItems (items : List Json) (rest : List Char) : Delimits (moreItems items ++ rest) := by
  cases items <;> exact delimits_cons (by decide) _

theorem delimits_moreFields (fields : List (String × Json)) (rest : List Char) :
    Delimits (moreFields fields ++ rest) := by
  cases fields <;> exact delimits_cons (by decide) _

/-- Either there is one more element in both arrays, or in none. -/
theorem moreItems_append_eq {items items' : List Json} {rest rest' : List Char}
    (same : moreItems items ++ rest = moreItems items' ++ rest') :
    (items = items' ∧ rest = rest') ∨ itemsChars items ++ rest = itemsChars items' ++ rest' := by
  cases items <;> cases items' <;> simp_all [moreItems]

/-- Either there is one more field in both objects, or in none. -/
theorem moreFields_append_eq {fields fields' : List (String × Json)} {rest rest' : List Char}
    (same : moreFields fields ++ rest = moreFields fields' ++ rest') :
    (fields = fields' ∧ rest = rest') ∨ fieldsChars fields ++ rest = fieldsChars fields' ++ rest' := by
  cases fields <;> cases fields' <;> simp_all [moreFields]

mutual

/-- **A value can be read from a text that begins with it.** -/
theorem chars_append_inj (v v' : Json) {rest rest' : List Char} (h : Delimits rest) (h' : Delimits rest')
    (same : v.chars ++ rest = v'.chars ++ rest') : v = v' ∧ rest = rest' := by
  have form := sameForm_of_append_eq same
  cases v with
  | null | bool =>
    cases form
    exact ⟨rfl, List.append_cancel_left same⟩
  | num n =>
    cases form with
    | num _ n' =>
      rw [chars, chars] at same
      obtain ⟨rfl, left⟩ := repr_append_inj h h' same
      exact ⟨rfl, left⟩
  | str s =>
    cases form with
    | str _ s' =>
      rw [chars, chars] at same
      obtain ⟨rfl, left⟩ := quote_append_inj same
      exact ⟨rfl, left⟩
  | arr items =>
    cases form with
    | arr _ items' =>
      rw [chars, chars] at same
      obtain ⟨rfl, left⟩ := itemsChars_append_inj items items' (List.cons.inj same).2
      exact ⟨rfl, left⟩
  | obj fields =>
    cases form with
    | obj _ fields' =>
      rw [chars, chars] at same
      obtain ⟨rfl, left⟩ := fieldsChars_append_inj fields fields' (List.cons.inj same).2
      exact ⟨rfl, left⟩

theorem itemsChars_append_inj (items items' : List Json) {rest rest' : List Char}
    (same : itemsChars items ++ rest = itemsChars items' ++ rest') : items = items' ∧ rest = rest' := by
  cases items with
  | nil =>
    cases items' with
    | nil => exact ⟨rfl, List.append_cancel_left same⟩
    | cons v' items' =>
      rw [itemsChars_cons, List.append_assoc, itemsChars] at same
      exact absurd same.symm (chars_append_ne v' _ _)
  | cons v items =>
    cases items' with
    | nil =>
      rw [itemsChars_cons, List.append_assoc, itemsChars] at same
      exact absurd same (chars_append_ne v _ _)
    | cons v' items' =>
      rw [itemsChars_cons, itemsChars_cons, List.append_assoc, List.append_assoc] at same
      -- a comma or a bracket follows, so that a number ends here
      obtain ⟨rfl, more⟩ := chars_append_inj v v' (delimits_moreItems _ _) (delimits_moreItems _ _) same
      rcases moreItems_append_eq more with ⟨rfl, left⟩ | more
      · exact ⟨rfl, left⟩
      · obtain ⟨rfl, left⟩ := itemsChars_append_inj items items' more
        exact ⟨rfl, left⟩

theorem fieldsChars_append_inj (fields fields' : List (String × Json)) {rest rest' : List Char}
    (same : fieldsChars fields ++ rest = fieldsChars fields' ++ rest') : fields = fields' ∧ rest = rest' := by
  cases fields with
  | nil =>
    cases fields' with
    | nil => exact ⟨rfl, List.append_cancel_left same⟩
    | cons field' fields' =>
      rw [fieldsChars_cons, fieldsChars] at same
      cases (List.cons.inj same).1
  | cons field fields =>
    cases fields' with
    | nil =>
      rw [fieldsChars_cons, fieldsChars] at same
      cases (List.cons.inj same).1
    | cons field' fields' =>
      rw [fieldsChars_cons, fieldsChars_cons, List.append_assoc, List.append_assoc] at same
      obtain ⟨key, behind⟩ := quote_append_inj same
      rw [List.cons_append, List.cons_append, List.cons.injEq, List.append_assoc, List.append_assoc] at behind
      obtain ⟨value, more⟩ :=
        chars_append_inj field.2 field'.2 (delimits_moreFields _ _) (delimits_moreFields _ _) behind.2
      obtain rfl : field = field' := Prod.ext key value
      rcases moreFields_append_eq more with ⟨rfl, left⟩ | more
      · exact ⟨rfl, left⟩
      · obtain ⟨rfl, left⟩ := fieldsChars_append_inj fields fields' more
        exact ⟨rfl, left⟩

end

end Values

/-- A text can be read from its bytes. -/
theorem chars_eq_of_bytes_eq {v v' : Json} (h : v.bytes = v'.bytes) : v.chars = v'.chars := by
  have encoded : v.chars.utf8Encode = v'.chars.utf8Encode := congrArg List.toByteArray h
  have decoded := congrArg ByteArray.utf8Decode? encoded
  rw [List.utf8Decode?_utf8Encode, List.utf8Decode?_utf8Encode] at decoded
  exact congrArg Array.toList (Option.some.inj decoded)

/-- **No two values have the same text.** -/
theorem bytes_injective : Function.Injective bytes := by
  intro v v' h
  have same : v.chars ++ [] = v'.chars ++ [] := congrArg (· ++ []) (chars_eq_of_bytes_eq h)
  exact (chars_append_inj v v' delimits_nil delimits_nil same).1

end MockCluster.Json
