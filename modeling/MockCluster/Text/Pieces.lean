/-!
# Pieces

Cutting a list at every separator. There is always one piece more than there are separators, and joining the pieces
again gives the list back.
-/

namespace MockCluster

/-- The pieces between the elements that satisfy `isSeparator`; always at least one piece. -/
def pieces {α : Type} (isSeparator : α → Bool) : List α → List (List α)
  | [] => [[]]
  | a :: rest =>
    if isSeparator a then [] :: pieces isSeparator rest
    else match pieces isSeparator rest with
      | [] => [[a]]
      | piece :: more => (a :: piece) :: more

theorem pieces_ne_nil {α : Type} (isSeparator : α → Bool) (list : List α) :
    pieces isSeparator list ≠ [] := by
  cases list with
  | nil => simp [pieces]
  | cons a rest =>
    unfold pieces
    split
    · simp
    · split <;> simp

/-- Joining the pieces gives the list back. -/
theorem intercalate_pieces {α : Type} [DecidableEq α] (separator : α) (list : List α) :
    [separator].intercalate (pieces (· = separator) list) = list := by
  induction list with
  | nil => rfl
  | cons a rest ih =>
    unfold pieces
    have hne := pieces_ne_nil (· = separator) rest
    by_cases h : a = separator
    · subst h
      simp only [decide_true, if_true]
      cases hp : pieces (· = a) rest with
      | nil => exact absurd hp hne
      | cons piece more =>
        rw [hp] at ih
        simp only [List.intercalate, List.intersperse, List.flatten_cons, List.nil_append] at ih ⊢
        rw [ih]; rfl
    · simp only [h, decide_false, Bool.false_eq_true, if_false]
      cases hp : pieces (· = separator) rest with
      | nil => exact absurd hp hne
      | cons piece more =>
        rw [hp] at ih
        cases more with
        | nil => simpa [List.intercalate, List.intersperse] using ih
        | cons next more =>
          simp only [List.intercalate, List.intersperse, List.flatten_cons, List.cons_append] at ih ⊢
          rw [ih]

end MockCluster
