import MockCluster.Proofs.Text.Digits
import MockCluster.Toml.Document
import MockCluster.Toml.Printer

/-!
# Integers, written and read

A word of a document is a truth value, a date or a time, a floating-point number, or an integer, and these are tried in
turn. So an integer is only read back (`ofWord?_repr`) because its digits are none of the others: dates, times, and
fractions have separators that are no digits (`isDatetime_signed`, `isFloat_signed`), and numbers to other bases begin
with a zero and a letter. A zero only begins zero itself (`toDigits_eq_zero_cons`).
-/

namespace MockCluster.Toml

variable {digits rest word : List Char}

/-! ## Digits -/

theorem digits?_eq_some (h : AreDigits digits) : digits? Char.isDigit digits = some digits := by
  obtain ⟨nonempty, all⟩ := h
  induction digits with
  | nil => exact absurd rfl nonempty
  | cons c ds ih =>
    have hc := all c List.mem_cons_self
    cases ds with
    | nil => rw [Toml.digits?, if_pos hc]
    | cons d ds =>
      have hd : d ≠ '_' := by
        rintro rfl
        exact absurd (all '_' (by simp)) (by decide)
      rw [Toml.digits?, if_pos hc, ih (by simp) fun c hc => all c (List.mem_cons_of_mem _ hc), Option.map_some]
      · exact List.cons_ne_nil d ds
      · exact fun _ he => hd (List.cons.inj he).1

/-- Only the digits of zero begin with a zero. -/
theorem toDigits_eq_zero_cons {n : Nat} (h : Nat.toDigits 10 n = '0' :: digits) : digits = [] := by
  induction n using Nat.strongRecOn generalizing digits with
  | ind n ih =>
    rw [Nat.toDigits_eq_if (by decide)] at h
    split at h
    · exact (List.cons.inj h).2.symm
    · rename_i several
      obtain ⟨first, more, he⟩ := List.exists_cons_of_ne_nil (Nat.toDigits_ne_nil (n := n / 10) (b := 10))
      rw [he, List.cons_append] at h
      obtain rfl := (List.cons.inj h).1
      obtain rfl := ih (n / 10) (Nat.div_lt_self (by omega) (by decide)) he
      have value := Nat.ofDigitChars_toDigits (b := 10) (n := n / 10) (by decide) (by decide)
      rw [he] at value
      have : n / 10 = 0 := value.symm
      omega

theorem decimal?_toDigits (n : Nat) : decimal? (Nat.toDigits 10 n) = some (Nat.toDigits 10 n) := by
  rw [decimal?, digits?_eq_some (areDigits_toDigits n)]
  split
  · rename_i d ds he
    exact absurd (toDigits_eq_zero_cons (Option.some.inj he)) (by simp)
  · rfl

theorem digitsValue_toDigits (n : Nat) : digitsValue 10 (Nat.toDigits 10 n) = n := by
  have same (ds : List Char) (all : ∀ c ∈ ds, c.isDigit = true) (start : Nat) :
      ds.foldl (fun n c => n * 10 + (Bytes.hexValue? c).getD 0) start = Nat.ofDigitChars 10 ds start := by
    induction ds generalizing start with
    | nil => rfl
    | cons c ds ih =>
      have hc : '0' ≤ c ∧ c ≤ '9' := by
        have := all c List.mem_cons_self
        simp only [Char.isDigit, ge_iff_le, Bool.and_eq_true, decide_eq_true_eq] at this
        exact this
      have value : (Bytes.hexValue? c).getD 0 = c.toNat - '0'.toNat := by
        rw [Bytes.hexValue?, if_pos hc]
        rfl
      rw [List.foldl_cons, ih fun c hc => all c (List.mem_cons_of_mem _ hc), value, Nat.mul_comm]
      rfl
  rw [digitsValue, same _ (areDigits_toDigits n).all]
  exact Nat.ofDigitChars_toDigits (by decide) (by decide)

/-! ## Words -/

theorem sign_signed (h : AreDigits digits) (negative : Bool) : sign (signed negative digits) = (negative, digits) := by
  cases negative with
  | true => rfl
  | false =>
    obtain ⟨c, ds, rfl⟩ := List.exists_cons_of_ne_nil h.nonempty
    have minus : c ≠ '-' := fun hc => h.not_mem (c := '-') (by decide) (hc ▸ List.mem_cons_self)
    have plus : c ≠ '+' := fun hc => h.not_mem (c := '+') (by decide) (hc ▸ List.mem_cons_self)
    unfold Toml.sign signed
    grind

theorem isWordChar_signed (h : AreDigits digits) (negative : Bool) :
    ∀ c ∈ signed negative digits, isWordChar c = true := by
  intro c hc
  have digit (c : Char) (hc : c ∈ digits) : Toml.isWordChar c = true := by
    simp [Toml.isWordChar, Char.isAlphanum, h.all c hc]
  cases negative with
  | false => exact digit c hc
  | true =>
    rcases List.mem_cons.1 hc with rfl | hc
    · decide
    · exact digit c hc

/-- A separator that is no digit is not found in the digits of a number. -/
theorem expect_drop_digits (h : AreDigits digits) {c : Char} (other : c.isDigit = false) (n : Nat) :
    expect [c] (digits.drop n) = none := by
  cases he : digits.drop n with
  | nil => rfl
  | cons d ds =>
    have hd : c ≠ d := by
      rintro rfl
      exact h.not_mem other (List.mem_of_mem_drop (he ▸ List.mem_cons_self))
    rw [expect, if_neg hd]

theorem eq_drop_of_fixed {width low high n : Nat} (h : fixed width low high word = some (n, rest)) :
    rest = word.drop width ∧ (word.take width).all Char.isDigit = true := by
  simp only [fixed] at h
  split at h
  · rename_i read
    split at h
    · cases h
      exact ⟨rfl, read.2⟩
    · cases h
  · cases h

/-- A number is not the beginning of a date or of a time, since what separates their parts is missing. -/
theorem expect_of_fixed_signed (h : AreDigits digits) {negative : Bool} {c : Char} (other : c.isDigit = false)
    {width low high n : Nat} (read : fixed (width + 1) low high (signed negative digits) = some (n, rest)) :
    expect [c] rest = none := by
  obtain ⟨rfl, taken⟩ := eq_drop_of_fixed read
  cases negative with
  | true => cases taken
  | false => exact expect_drop_digits h other (width + 1)

/-- A number is no date and no time. -/
theorem isDatetime_signed (h : AreDigits digits) (negative : Bool) :
    isDatetime (signed negative digits) = false := by
  have date : afterDate? (signed negative digits) = none := by
    unfold afterDate?
    cases read : fixed 4 0 9999 (signed negative digits) with
    | none => rfl
    | some result => simp [expect_of_fixed_signed h (c := '-') (by decide) read]
  have time : afterTime? (signed negative digits) = none := by
    unfold afterTime?
    cases read : fixed 2 0 23 (signed negative digits) with
    | none => rfl
    | some result => simp [expect_of_fixed_signed h (c := ':') (by decide) read]
  simp [Toml.isDatetime, date, time]

/-- A number without a point and an exponent is an integer. -/
theorem isFloat_signed (h : AreDigits digits) (negative : Bool) : isFloat (signed negative digits) = false := by
  have noMark : ∀ c ∈ digits, (!(decide (c = 'e') || decide (c = 'E'))) = true := by
    intro c hc
    have small : c ≠ 'e' := fun he => h.not_mem (c := 'e') (by decide) (he ▸ hc)
    have great : c ≠ 'E' := fun he => h.not_mem (c := 'E') (by decide) (he ▸ hc)
    simp [small, great]
  have noPoint : ∀ c ∈ digits, decide (c ≠ '.') = true := by
    intro c hc
    have point : c ≠ '.' := fun he => h.not_mem (c := '.') (by decide) (he ▸ hc)
    simp [point]
  have number : decimalFloat? (signed negative digits) = none := by
    have whole : digits.takeWhile (fun c => !(decide (c = 'e') || decide (c = 'E'))) = digits :=
      List.takeWhile_eq_self_iff.2 noMark
    have exponent : digits.dropWhile (fun c => !(decide (c = 'e') || decide (c = 'E'))) = [] :=
      List.dropWhile_eq_nil_iff.2 noMark
    have fraction : digits.dropWhile (fun c => decide (c ≠ '.')) = [] := List.dropWhile_eq_nil_iff.2 noPoint
    have marks : digits.any (fun c => decide (c = 'e') || decide (c = 'E')) = false := by
      rw [List.any_eq_false]
      intro c hc
      simpa using noMark c hc
    unfold decimalFloat?
    simp only [sign_signed h, whole, exponent, fraction, marks]
    cases decimal? (digits.takeWhile fun c => decide (c ≠ '.')) <;> rfl
  have inf : digits ≠ ['i', 'n', 'f'] := by
    rintro rfl
    exact h.not_mem (c := 'i') (by decide) List.mem_cons_self
  have nan : digits ≠ ['n', 'a', 'n'] := by
    rintro rfl
    exact h.not_mem (c := 'n') (by decide) List.mem_cons_self
  simp [Toml.isFloat, sign_signed h, number, inf, nan]

/-- **An integer is read back.** -/
theorem ofWord?_repr {n : Int} (h : inRange? n = some n) : ofWord? n.repr.toList = some (.integer n) := by
  obtain ⟨negative, m, rfl, he⟩ := exists_signed n
  have digits := areDigits_toDigits m
  have number : integer? (signed negative (Nat.toDigits 10 m)) = some (if negative then -(m : Int) else m) := by
    have based {c d : Char} {ds : List Char} (other : d.isDigit = false) (digit : c.isDigit = true) :
        signed negative (Nat.toDigits 10 m) ≠ c :: d :: ds := by
      intro he
      cases negative with
      | true => exact absurd ((List.cons.inj he).1 ▸ digit) (by decide)
      | false => exact digits.not_mem other (by rw [show Nat.toDigits 10 m = c :: d :: ds from he]; simp)
    unfold integer?
    split
    · rename_i he
      exact absurd he (based (by decide) (by decide))
    · rename_i he
      exact absurd he (based (by decide) (by decide))
    · rename_i he
      exact absurd he (based (by decide) (by decide))
    · simpa only [sign_signed digits, decimal?_toDigits, Option.bind_some, digitsValue_toDigits] using h
  have letter {c : Char} {ds : List Char} (other : c.isDigit = false) (minus : '-' ≠ c) :
      signed negative (Nat.toDigits 10 m) ≠ c :: ds := by
    intro he
    cases negative with
    | true => exact minus (List.cons.inj he).1
    | false => exact digits.not_mem other (by rw [show Nat.toDigits 10 m = c :: ds from he]; simp)
  rw [he, ofWord?, if_neg (letter (by decide) (by decide)), if_neg (letter (by decide) (by decide)),
    isDatetime_signed digits, isFloat_signed digits, number]
  rfl

end MockCluster.Toml
