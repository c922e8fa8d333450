/-!
# Scopes

A scope holds what was registered in it, oldest first. Every registration gets a handle, which is a number that the
scope never gives again. An entry may be limited to a number of firings. To fire, an entry is claimed: the claim that
uses up the limit takes the entry out of the scope, and a claim beyond the limit is refused.

Firings are counted by handle and not in the entries. Whoever found an entry before it was removed may still claim it
afterwards, and all claims to an entry are counted together, whoever makes them.
-/

namespace MockCluster

/-- A registered thing. -/
structure Entry (α : Type) where
  /-- The number by which the entry can be removed. -/
  handle : Nat
  /-- How often the entry may fire, if there is a limit. -/
  limit : Option Nat
  /-- What was registered. -/
  content : α
  deriving DecidableEq, Repr

/-- What is registered, oldest first, with a count of firings for every handle that was given. -/
structure Scope (α : Type) where
  /-- The registered entries. -/
  entries : List (Entry α)
  /-- How often each handle has fired, whether its entry is still registered or not. Handle 0 is never given. -/
  counts : List Nat
  /-- Handles are given in ascending order. -/
  ascending : (entries.map (·.handle)).Pairwise (· < ·)
  /-- The handle of every entry was given. -/
  given : ∀ e ∈ entries, e.handle < counts.length
  deriving DecidableEq, Repr

namespace Scope

variable {α : Type}

/-- A scope in which nothing was ever registered. -/
def empty : Scope α := ⟨[], [0], .nil, by simp⟩

instance : Inhabited (Scope α) := ⟨empty⟩

/-- The number of entries. -/
def size (s : Scope α) : Nat := s.entries.length

/-- The handles of the entries, oldest first. -/
def handles (s : Scope α) : List Nat := s.entries.map (·.handle)

/-- The handle of the next registration. -/
def next (s : Scope α) : Nat := s.counts.length

/-- How often a handle has fired. -/
def fired (s : Scope α) (handle : Nat) : Nat := s.counts[handle]?.getD 0

/-- Registers something and gives its handle. -/
def register (s : Scope α) (limit : Option Nat) (content : α) : Nat × Scope α :=
  (s.next, {
    entries := s.entries ++ [⟨s.next, limit, content⟩]
    counts := s.counts ++ [0]
    ascending := by
      rw [List.map_append, List.pairwise_append]
      refine ⟨s.ascending, by simp, ?_⟩
      simp only [List.mem_map, List.map_cons, List.map_nil, List.mem_singleton]
      rintro _ ⟨e, he, rfl⟩ _ rfl
      exact s.given e he
    given := by
      simp only [List.mem_append, List.mem_singleton, List.length_append, List.length_singleton]
      rintro e (he | rfl)
      · exact Nat.lt_succ_of_lt (s.given e he)
      · exact Nat.lt_succ_self _ })

/-- Whether a handle is registered. -/
def contains (s : Scope α) (handle : Nat) : Bool := s.entries.any (·.handle = handle)

/-- The scope without the entry of a handle. -/
def erase (s : Scope α) (handle : Nat) : Scope α where
  entries := s.entries.filter (·.handle ≠ handle)
  counts := s.counts
  ascending := s.ascending.sublist (List.filter_sublist.map _)
  given e he := s.given e (List.mem_filter.1 he).1

/-- The scope without any entry. Handles go on from where they were. -/
def clear (s : Scope α) : Scope α := ⟨[], s.counts, .nil, by simp⟩

/-- The scope after a handle has fired once more. -/
def fire (s : Scope α) (handle : Nat) : Scope α where
  entries := s.entries
  counts := s.counts.modify handle (· + 1)
  ascending := s.ascending
  given e he := by
    rw [List.length_modify]
    exact s.given e he

/-- Whether an entry may not fire any more. -/
def isSpent (s : Scope α) (e : Entry α) : Bool :=
  match e.limit with
  | none => false
  | some limit => limit ≤ s.fired e.handle

/-- Whether one more firing uses up the limit of an entry. -/
def isLast (s : Scope α) (e : Entry α) : Bool := e.limit = some (s.fired e.handle + 1)

/-- The scope in which an entry is about to fire; none if the entry is spent. -/
def claim (s : Scope α) (e : Entry α) : Option (Scope α) :=
  if s.isSpent e then none
  else if s.isLast e then some ((s.fire e.handle).erase e.handle)
  else some (s.fire e.handle)

theorem mem_handles {s : Scope α} {handle : Nat} : handle ∈ s.handles ↔ ∃ e ∈ s.entries, e.handle = handle := by
  simp [handles]

@[simp] theorem size_empty : (empty : Scope α).size = 0 := rfl

@[simp] theorem size_clear (s : Scope α) : s.clear.size = 0 := rfl

@[simp] theorem size_register (s : Scope α) (limit : Option Nat) (content : α) :
    (s.register limit content).2.size = s.size + 1 := by
  simp [register, size]

@[simp] theorem handles_register (s : Scope α) (limit : Option Nat) (content : α) :
    (s.register limit content).2.handles = s.handles ++ [s.next] := by
  simp [register, handles]

@[simp] theorem handles_fire (s : Scope α) (handle : Nat) : (s.fire handle).handles = s.handles := rfl

@[simp] theorem handles_clear (s : Scope α) : s.clear.handles = [] := rfl

theorem handles_erase (s : Scope α) (handle : Nat) :
    (s.erase handle).handles = s.handles.filter (· ≠ handle) := by
  simp only [erase, handles, List.filter_map]
  rfl

theorem mem_handles_erase {s : Scope α} {handle other : Nat} :
    other ∈ (s.erase handle).handles ↔ other ∈ s.handles ∧ other ≠ handle := by
  simp [handles_erase]

@[simp] theorem next_register (s : Scope α) (limit : Option Nat) (content : α) :
    (s.register limit content).2.next = s.next + 1 := by
  simp [register, next]

@[simp] theorem next_erase (s : Scope α) (handle : Nat) : (s.erase handle).next = s.next := rfl

@[simp] theorem next_clear (s : Scope α) : s.clear.next = s.next := rfl

@[simp] theorem next_fire (s : Scope α) (handle : Nat) : (s.fire handle).next = s.next := List.length_modify ..

@[simp] theorem fired_empty (handle : Nat) : (empty : Scope α).fired handle = 0 := by
  cases handle <;> rfl

/-- A handle that was not given yet has not fired. -/
theorem fired_of_next_le {s : Scope α} {handle : Nat} (h : s.next ≤ handle) : s.fired handle = 0 := by
  rw [fired, List.getElem?_eq_none h, Option.getD_none]

@[simp] theorem fired_register (s : Scope α) (limit : Option Nat) (content : α) (handle : Nat) :
    (s.register limit content).2.fired handle = s.fired handle := by
  by_cases h : handle < s.counts.length
  · rw [fired, fired, register, List.getElem?_append_left h]
  · have hn : s.next ≤ handle := Nat.le_of_not_lt h
    rw [fired_of_next_le hn, fired, register, List.getElem?_append_right hn]
    cases handle - s.counts.length <;> rfl

@[simp] theorem fired_erase (s : Scope α) (handle other : Nat) : (s.erase handle).fired other = s.fired other := rfl

@[simp] theorem fired_clear (s : Scope α) (handle : Nat) : s.clear.fired handle = s.fired handle := rfl

theorem fired_fire_of_ne {s : Scope α} {handle other : Nat} (h : other ≠ handle) :
    (s.fire handle).fired other = s.fired other := by
  simp [fired, fire, Ne.symm h]

theorem fired_fire {s : Scope α} {handle : Nat} (h : handle < s.next) (other : Nat) :
    (s.fire handle).fired other = if other = handle then s.fired handle + 1 else s.fired other := by
  have hg : s.counts[handle]? = some s.counts[handle] := List.getElem?_eq_getElem h
  by_cases ho : other = handle
  · subst ho
    simp [fired, fire, hg]
  · rw [if_neg ho, fired_fire_of_ne ho]

theorem isSpent_eq_false_iff {s : Scope α} {e : Entry α} :
    s.isSpent e = false ↔ ∀ limit, e.limit = some limit → s.fired e.handle < limit := by
  unfold isSpent
  cases e.limit <;> simp

theorem isSpent_eq_true_iff {s : Scope α} {e : Entry α} :
    s.isSpent e = true ↔ ∃ limit, e.limit = some limit ∧ limit ≤ s.fired e.handle := by
  unfold isSpent
  cases e.limit <;> simp

theorem isSpent_congr {s t : Scope α} {e : Entry α} (h : s.fired e.handle = t.fired e.handle) :
    s.isSpent e = t.isSpent e := by
  unfold isSpent
  rw [h]

theorem claim_eq_none_iff {s : Scope α} {e : Entry α} : s.claim e = none ↔ s.isSpent e = true := by
  unfold claim
  split
  · simp_all
  · split <;> simp_all

section Claimed

variable {s claimed : Scope α} {e : Entry α}

/-- A granted claim takes the entry out of the scope if that uses up its limit. -/
theorem claim_cases (h : s.claim e = some claimed) :
    (e.limit = some (s.fired e.handle + 1) ∧ claimed = (s.fire e.handle).erase e.handle) ∨
      (e.limit ≠ some (s.fired e.handle + 1) ∧ claimed = s.fire e.handle) := by
  unfold claim isLast at h
  cases hs : s.isSpent e with
  | true => simp [hs] at h
  | false =>
    by_cases hl : e.limit = some (s.fired e.handle + 1)
    · exact .inl ⟨hl, by simpa [hs, hl, eq_comm] using h⟩
    · exact .inr ⟨hl, by simpa [hs, hl, eq_comm] using h⟩

theorem next_of_claim (h : s.claim e = some claimed) : claimed.next = s.next := by
  obtain ⟨-, rfl⟩ | ⟨-, rfl⟩ := claim_cases h <;> simp

theorem fired_of_claim (h : s.claim e = some claimed) (hg : e.handle < s.next) (other : Nat) :
    claimed.fired other = if other = e.handle then s.fired e.handle + 1 else s.fired other := by
  obtain ⟨-, rfl⟩ | ⟨-, rfl⟩ := claim_cases h
  · rw [fired_erase, fired_fire hg]
  · exact fired_fire hg other

theorem entries_subset_of_claim (h : s.claim e = some claimed) : claimed.entries ⊆ s.entries := by
  obtain ⟨-, rfl⟩ | ⟨-, rfl⟩ := claim_cases h
  · exact List.filter_sublist.subset
  · exact List.Subset.refl _

theorem fired_of_claim_of_ne (h : s.claim e = some claimed) {other : Nat} (ho : other ≠ e.handle) :
    claimed.fired other = s.fired other := by
  obtain ⟨-, rfl⟩ | ⟨-, rfl⟩ := claim_cases h <;> simp [fired_fire_of_ne ho]

theorem mem_handles_of_claim (h : s.claim e = some claimed) (handle : Nat) :
    handle ∈ claimed.handles ↔
      handle ∈ s.handles ∧ (handle = e.handle → e.limit ≠ some (s.fired e.handle + 1)) := by
  obtain ⟨hl, rfl⟩ | ⟨hl, rfl⟩ := claim_cases h
  · rw [mem_handles_erase, handles_fire]
    simp [hl]
  · simp [hl]

/-- If the entry is not listed after the claim, all others still are, in their order. -/
theorem entries_of_claim (h : s.claim e = some claimed) (hn : e.handle ∉ claimed.handles) :
    claimed.entries = s.entries.filter (·.handle ≠ e.handle) := by
  obtain ⟨-, rfl⟩ | ⟨-, rfl⟩ := claim_cases h
  · rfl
  · refine (List.filter_eq_self.2 fun x hx => ?_).symm
    exact decide_eq_true fun hh => hn (mem_handles.2 ⟨x, hx, hh⟩)

end Claimed

end Scope

end MockCluster
