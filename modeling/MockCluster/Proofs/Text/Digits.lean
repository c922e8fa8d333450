import Mathlib.Data.List.TakeWhile

/-!
# Digits

Integers are written in the same way in all text formats: as digits, behind a minus sign if they are negative. Nothing
marks where an integer ends, so it can be read from a text that begins with it only if what follows it begins with a
character of another kind (`repr_append_inj`).
-/

namespace MockCluster

/-- What is taken while it fits ends where something else begins. -/
theorem takeWhile_append_of_head? {α : Type} {p : α → Bool} {word rest : List α} (inside : ∀ c ∈ word, p c = true)
    (behind : ∀ c, rest.head? = some c → p c = false) : (word ++ rest).takeWhile p = word := by
  rw [List.takeWhile_append_of_pos inside]
  cases rest with
  | nil => rw [List.takeWhile_nil, List.append_nil]
  | cons c rest => rw [List.takeWhile_cons_of_neg (by simp [behind c rfl]), List.append_nil]

/-- Nothing but digits, and at least one. -/
structure AreDigits (digits : List Char) : Prop where
  nonempty : digits ≠ []
  all : ∀ c ∈ digits, c.isDigit = true

variable {digits : List Char}

theorem areDigits_toDigits (n : Nat) : AreDigits (Nat.toDigits 10 n) :=
  ⟨Nat.toDigits_ne_nil, fun _ hc => Nat.isDigit_of_mem_toDigits (by decide) (by decide) hc⟩

theorem AreDigits.not_mem (h : AreDigits digits) {c : Char} (other : c.isDigit = false) : c ∉ digits := by
  intro hc
  rw [h.all c hc] at other
  cases other

theorem toDigits_injective : Function.Injective (Nat.toDigits 10) := by
  intro a b h
  have read := congrArg (Nat.ofDigitChars 10 · 0) h
  simpa [Nat.ofDigitChars_toDigits] using read

/-- The digits of a number with or without a minus sign. -/
def signed (negative : Bool) (digits : List Char) : List Char := if negative then '-' :: digits else digits

theorem AreDigits.signed_ne_nil (h : AreDigits digits) (negative : Bool) : signed negative digits ≠ [] := by
  cases negative with
  | true => exact List.cons_ne_nil _ _
  | false => exact h.nonempty

/-- The minus sign is no digit. -/
theorem AreDigits.signed_inj {digits' : List Char} (h : AreDigits digits) (h' : AreDigits digits')
    {negative negative' : Bool} (same : signed negative digits = signed negative' digits') :
    negative = negative' ∧ digits = digits' := by
  have minus : '-' ∉ digits := h.not_mem (by decide)
  have minus' : '-' ∉ digits' := h'.not_mem (by decide)
  cases negative <;> cases negative'
  · exact ⟨rfl, same⟩
  · have begins : digits = '-' :: digits' := same
    exact absurd (begins ▸ List.mem_cons_self) minus
  · have begins : '-' :: digits = digits' := same
    exact absurd (begins ▸ List.mem_cons_self) minus'
  · exact ⟨rfl, (List.cons.inj same).2⟩

/-- An integer is written as its digits behind a sign. -/
theorem exists_signed (n : Int) : ∃ (negative : Bool) (m : Nat), n = (if negative then -(m : Int) else m) ∧
    n.repr.toList = signed negative (Nat.toDigits 10 m) := by
  cases n with
  | ofNat m => exact ⟨false, m, rfl, Nat.toList_repr⟩
  | negSucc m => exact ⟨true, m + 1, rfl, by simp [Int.repr, signed]⟩

/-- No two integers are written alike. -/
theorem toList_repr_injective : Function.Injective fun n : Int => n.repr.toList := by
  intro n n' same
  obtain ⟨negative, m, rfl, written⟩ := exists_signed n
  obtain ⟨negative', m', rfl, written'⟩ := exists_signed n'
  have signs : signed negative (Nat.toDigits 10 m) = signed negative' (Nat.toDigits 10 m') :=
    written.symm.trans (same.trans written')
  obtain ⟨rfl, digits⟩ := (areDigits_toDigits m).signed_inj (areDigits_toDigits m') signs
  rw [toDigits_injective digits]

/-- The characters of integers. -/
def isNumeral (c : Char) : Bool := c.isDigit || c = '-'

/-- What may follow an integer: nothing, or a character that no integer has. -/
def Delimits (rest : List Char) : Prop := ∀ c, rest.head? = some c → isNumeral c = false

theorem delimits_nil : Delimits [] := fun _ none => by cases none

theorem delimits_cons {c : Char} (other : isNumeral c = false) (rest : List Char) : Delimits (c :: rest) := by
  intro d first
  obtain rfl := Option.some.inj first
  exact other

theorem isNumeral_of_mem_repr (n : Int) : ∀ c ∈ n.repr.toList, isNumeral c = true := by
  obtain ⟨negative, m, -, written⟩ := exists_signed n
  have digit (c : Char) (hc : c ∈ Nat.toDigits 10 m) : isNumeral c = true := by
    rw [isNumeral, (areDigits_toDigits m).all c hc, Bool.true_or]
  intro c hc
  rw [written] at hc
  cases negative with
  | false => exact digit c hc
  | true =>
    rcases List.mem_cons.1 hc with rfl | hc
    · rfl
    · exact digit c hc

theorem exists_repr_eq_cons (n : Int) : ∃ c more, n.repr.toList = c :: more := by
  obtain ⟨negative, m, -, written⟩ := exists_signed n
  rw [written]
  exact List.exists_cons_of_ne_nil ((areDigits_toDigits m).signed_ne_nil negative)

/-- **An integer can be read from a text that begins with it.** -/
theorem repr_append_inj {n n' : Int} {rest rest' : List Char} (h : Delimits rest) (h' : Delimits rest')
    (same : n.repr.toList ++ rest = n'.repr.toList ++ rest') : n = n' ∧ rest = rest' := by
  have taken := congrArg (List.takeWhile isNumeral) same
  rw [takeWhile_append_of_head? (isNumeral_of_mem_repr n) h,
    takeWhile_append_of_head? (isNumeral_of_mem_repr n') h'] at taken
  obtain rfl := toList_repr_injective taken
  exact ⟨rfl, List.append_cancel_left same⟩

end MockCluster
