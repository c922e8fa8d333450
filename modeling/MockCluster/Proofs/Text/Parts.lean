import MockCluster.Text.Pieces

/-!
# Parts between separators

A piece has no separators. When two lists are put together with a separator between them, their pieces stand one after
the other. So a list can be made of parts without separators in one way only (`pieces_eq_iff`).
-/

namespace MockCluster

variable {α : Type} {isSeparator : α → Bool} {list : List α}

/-- Without a separator there is one piece. -/
theorem pieces_of_not_mem [DecidableEq α] {separator : α} (h : separator ∉ list) :
    pieces (· = separator) list = [list] := by
  induction list with
  | nil => rfl
  | cons a rest ih =>
    obtain ⟨other, absent⟩ := not_or.1 (mt List.mem_cons.2 h)
    simp only [pieces, decide_eq_false (Ne.symm other), Bool.false_eq_true, if_false, ih absent]

/-- A separator keeps apart the pieces on both sides. -/
theorem pieces_append_cons {separator : α} (h : isSeparator separator = true) (list rest : List α) :
    pieces isSeparator (list ++ separator :: rest) = pieces isSeparator list ++ pieces isSeparator rest := by
  induction list with
  | nil => simp [pieces, h]
  | cons a list ih =>
    simp only [List.cons_append, pieces, ih]
    cases hp : pieces isSeparator list with
    | nil => exact absurd hp (pieces_ne_nil _ _)
    | cons piece more => split <;> rfl

/-- A piece has no separators, and nothing that was not there before. -/
theorem mem_of_mem_pieces {piece : List α} (hp : piece ∈ pieces isSeparator list) {a : α} (ha : a ∈ piece) :
    a ∈ list ∧ isSeparator a = false := by
  -- a head that is no separator goes to the front of the first piece; all other pieces are those of the rest
  induction list generalizing piece with
  | nil =>
    obtain rfl := List.mem_singleton.1 hp
    cases ha
  | cons head rest ih =>
    unfold pieces at hp
    split at hp
    · obtain rfl | hp := List.mem_cons.1 hp
      · cases ha
      · exact ⟨.tail _ (ih hp ha).1, (ih hp ha).2⟩
    · rename_i keep
      split at hp
      · rename_i none
        exact absurd none (pieces_ne_nil _ _)
      · rename_i first more cut
        obtain rfl | hp := List.mem_cons.1 hp
        · obtain rfl | ha := List.mem_cons.1 ha
          · exact ⟨.head _, Bool.eq_false_iff.2 keep⟩
          · have found := ih (cut ▸ .head _) ha
            exact ⟨.tail _ found.1, found.2⟩
        · have found := ih (cut ▸ .tail _ hp) ha
          exact ⟨.tail _ found.1, found.2⟩

/-- There is one way to make a list of parts without separators. -/
theorem pieces_eq_iff [DecidableEq α] {separator : α} {parts : List (List α)} :
    pieces (· = separator) list = parts ↔
      parts ≠ [] ∧ [separator].intercalate parts = list ∧ ∀ part ∈ parts, separator ∉ part := by
  constructor
  · rintro rfl
    refine ⟨pieces_ne_nil _ _, intercalate_pieces separator list, fun part hp hs => ?_⟩
    exact of_decide_eq_false (mem_of_mem_pieces hp hs).2 rfl
  · rintro ⟨some, rfl, free⟩
    induction parts with
    | nil => exact absurd rfl some
    | cons part rest ih =>
      obtain ⟨first, others⟩ := List.forall_mem_cons.1 free
      cases rest with
      | nil => simpa using pieces_of_not_mem first
      | cons next more =>
        have cut := @pieces_append_cons α (· = separator) separator (decide_eq_true rfl) part
          ([separator].intercalate (next :: more))
        rw [List.intercalate_cons_cons, List.append_assoc, List.singleton_append, cut,
          pieces_of_not_mem first, ih (List.cons_ne_nil _ _) others]
        rfl

end MockCluster
