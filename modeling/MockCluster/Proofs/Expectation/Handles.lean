import Mathlib.Algebra.Group.Nat.Defs
import Mathlib.Data.List.Induction
import MockCluster.Expectation.Scope
import MockCluster.Script.Memory

/-!
# Handles

Whoever registers something gets a handle for it, and may use it later to remove this one thing. A scope is changed by
registering, removing and clearing:

| call | answer | what is listed afterwards |
| --- | --- | --- |
| to register what is described in full | the next handle | one entry more, at the end |
| to register what is not | the reason why not | the same, and the next handle is the same too |
| to remove a listed handle | it was there | all but this one entry |
| to remove any other number | it was not there | the same |
| to clear | done | nothing |

A call finds a scope as the calls before have left it, so `Scope.Takes` says what one call does, and all else about a
sequence of calls follows from it by induction. The handles are the numbers from one on, in the order of the accepted
registrations (`issued_callAll`). They go on after a removal or a clearing, so that a number never means something
else than before.
-/

namespace MockCluster

open Script (Managed)

variable {α : Type}

/-- What is asked of a scope. -/
inductive Call (α : Type) where
  /-- To register something, if it was described in full. -/
  | register (limit : Option Nat) (described : Except Fault α)
  /-- To remove what has a handle. -/
  | remove (handle : Nat)
  /-- To remove everything. -/
  | clear

namespace Call

/-- A registration of something that was described in full. -/
def isAccepted : Call α → Bool
  | register _ (.ok _) => true
  | _ => false

/-- The number of accepted registrations. -/
def accepted (calls : List (Call α)) : Nat := calls.countP isAccepted

/-- A call that does not remove what has a handle, neither alone nor with everything. -/
def Spares (call : Call α) (handle : Nat) : Prop := call ≠ remove handle ∧ call ≠ clear

/-- A counter of 64 bits that begins with one and goes up by one for each accepted registration. -/
def counter (calls : List (Call α)) : UInt64 := calls.foldl (fun n call => if call.isAccepted then n + 1 else n) 1

/-- The handles that were given, in the order in which they were. -/
def issued (answers : List (Except Fault Managed)) : List Nat :=
  answers.filterMap fun
    | .ok (.registered handle) => some handle
    | _ => none

theorem accepted_cons (call : Call α) (calls : List (Call α)) :
    accepted (call :: calls) = accepted [call] + accepted calls := by
  rw [← List.singleton_append]
  exact List.countP_append

theorem issued_cons (answer : Except Fault Managed) (answers : List (Except Fault Managed)) :
    issued (answer :: answers) = issued [answer] ++ issued answers := by
  rw [← List.singleton_append]
  exact List.filterMap_append

theorem toNat_foldl_counter (calls : List (Call α)) {n : UInt64} (room : n.toNat + accepted calls < 2 ^ 64) :
    (calls.foldl (fun n call => if call.isAccepted then n + 1 else n) n).toNat = n.toNat + accepted calls := by
  induction calls generalizing n with
  | nil => rfl
  | cons call calls ih =>
    rw [accepted, List.countP_cons, ← accepted] at room ⊢
    rw [List.foldl_cons]
    split
    · rename_i ok
      rw [if_pos ok] at room
      have one : (1 : UInt64).toNat = 1 := rfl
      have up : (n + 1).toNat = n.toNat + 1 := by
        rw [UInt64.toNat_add, one]
        exact Nat.mod_eq_of_lt (by omega)
      rw [ih (by omega), up]
      omega
    · rename_i other
      rw [if_neg other] at room
      exact ih room

/-- As long as there are not too many registrations, the counter has not begun anew. -/
theorem toNat_counter {calls : List (Call α)} (few : accepted calls < 2 ^ 64 - 1) :
    (counter calls).toNat = 1 + accepted calls := by
  have one : (1 : UInt64).toNat = 1 := rfl
  exact toNat_foldl_counter calls (by omega)

end Call

open Call (accepted counter issued)

/-- One of the calls registered an entry, under the number that comes after those of the registrations before it, and
then came the calls behind. -/
def Entry.RegisteredBefore (e : Entry α) (behind calls : List (Call α)) : Prop :=
  ∃ before, calls = before ++ .register e.limit (.ok e.content) :: behind ∧ e.handle = accepted before + 1

namespace Scope

/-- The answer to a call, and the scope afterwards. -/
def call (s : Scope α) : Call α → Except Fault Managed × Scope α
  | .register limit (.ok content) => (.ok (.registered (s.register limit content).1), (s.register limit content).2)
  | .register _ (.error fault) => (.error fault, s)
  | .remove handle => (.ok (.removed (s.contains handle)), s.erase handle)
  | .clear => (.ok .cleared, s.clear)

/-- The answers to one call after another, and the scope in the end. -/
def callAll (s : Scope α) : List (Call α) → List (Except Fault Managed) × Scope α
  | [] => ([], s)
  | call :: calls =>
    let (answer, s) := s.call call
    let (answers, s) := s.callAll calls
    (answer :: answers, s)

/-- What a call does. -/
inductive Takes (s : Scope α) : Call α → Except Fault Managed → Scope α → Prop
  | registered {s' : Scope α} (limit : Option Nat) (content : α)
      (entries : s'.entries = s.entries ++ [⟨s.next, limit, content⟩]) (next : s'.next = s.next + 1) :
      Takes s (.register limit (.ok content)) (.ok (.registered s.next)) s'
  | rejected (limit : Option Nat) (fault : Fault) : Takes s (.register limit (.error fault)) (.error fault) s
  /-- There is one entry with this handle, and no other is removed. -/
  | removed {s' : Scope α} {before behind : List (Entry α)} {e : Entry α} (listed : s.entries = before ++ e :: behind)
      (entries : s'.entries = before ++ behind) (next : s'.next = s.next) :
      Takes s (.remove e.handle) (.ok (.removed true)) s'
  | absent {handle : Nat} (unlisted : handle ∉ s.handles) : Takes s (.remove handle) (.ok (.removed false)) s
  | cleared {s' : Scope α} (entries : s'.entries = []) (next : s'.next = s.next) : Takes s .clear (.ok .cleared) s'

section Takes

variable {s s' : Scope α} {handle : Nat} {call : Call α} {answer : Except Fault Managed}

theorem contains_eq_true_iff : s.contains handle = true ↔ handle ∈ s.handles := by
  simp [contains, mem_handles]

theorem erase_of_not_mem (h : handle ∉ s.handles) : s.erase handle = s := by
  have same : (s.erase handle).entries = s.entries :=
    List.filter_eq_self.2 fun e he => decide_eq_true fun hh => h (mem_handles.2 ⟨e, he, hh⟩)
  cases s
  simp only [erase] at same ⊢
  simp only [same]

/-- Handles ascend, so no other entry has the handle of one of them. -/
theorem entries_erase_of_split {before behind : List (Entry α)} {e : Entry α}
    (listed : s.entries = before ++ e :: behind) : (s.erase e.handle).entries = before ++ behind := by
  have ascending := s.ascending
  rw [listed, List.pairwise_map, List.pairwise_append, List.pairwise_cons] at ascending
  obtain ⟨-, ⟨later, -⟩, earlier⟩ := ascending
  have kept_before : before.filter (·.handle ≠ e.handle) = before :=
    List.filter_eq_self.2 fun x hx => decide_eq_true (Nat.ne_of_lt (earlier x hx e List.mem_cons_self))
  have kept_behind : behind.filter (·.handle ≠ e.handle) = behind :=
    List.filter_eq_self.2 fun x hx => decide_eq_true (Nat.ne_of_gt (later x hx))
  simp only [erase, listed, List.filter_append, List.filter_cons, kept_before, kept_behind]
  simp

theorem takes_call (s : Scope α) (call : Call α) : s.Takes call (s.call call).1 (s.call call).2 := by
  cases call with
  | register limit described =>
    cases described with
    | ok content => exact .registered limit content rfl (next_register s limit content)
    | error fault => exact .rejected limit fault
  | remove handle =>
    by_cases listed : handle ∈ s.handles
    · obtain ⟨e, he, rfl⟩ := mem_handles.1 listed
      obtain ⟨before, behind, split⟩ := List.append_of_mem he
      rw [Scope.call, contains_eq_true_iff.2 listed]
      exact .removed split (entries_erase_of_split split) rfl
    · rw [Scope.call, Bool.eq_false_iff.2 (mt contains_eq_true_iff.1 listed), erase_of_not_mem listed]
      exact .absent listed
  | clear => exact .cleared rfl rfl

end Takes

section Step

variable (s : Scope α) (call : Call α)

/-- Only an accepted registration moves the next handle. -/
theorem next_call : (s.call call).2.next = s.next + accepted [call] := by
  rcases call with ⟨limit, fault | content⟩ | handle | _
  · rfl
  · exact next_register s limit content
  · rfl
  · rfl

/-- Only an accepted registration is given a handle, and this is the next one. -/
theorem issued_call : issued [(s.call call).1] = List.range' s.next (accepted [call]) := by
  rcases call with ⟨limit, fault | content⟩ | handle | _ <;> rfl

/-- What is listed was so before or is just registered. -/
theorem mem_entries_call {e : Entry α} :
    e ∈ (s.call call).2.entries ↔
      e ∈ s.entries ∧ call.Spares e.handle ∨ call = .register e.limit (.ok e.content) ∧ e.handle = s.next := by
  obtain ⟨handle, limit, content⟩ := e
  rcases call with ⟨limit', fault | content'⟩ | handle' | _
  · simp [Scope.call, Call.Spares]
  · simp only [Scope.call, Scope.register, Call.Spares, List.mem_append, List.mem_singleton, Entry.mk.injEq,
      Call.register.injEq, Except.ok.injEq]
    grind
  · simp [Scope.call, erase, Call.Spares, @eq_comm _ handle]
  · simp [Scope.call, Scope.clear, Call.Spares]

end Step

section Run

variable (s : Scope α) (calls : List (Call α))

theorem next_callAll : (s.callAll calls).2.next = s.next + accepted calls := by
  induction calls generalizing s with
  | nil => rfl
  | cons call calls ih =>
    rw [callAll, Call.accepted_cons]
    dsimp only
    rw [ih, next_call, Nat.add_assoc]

/-- **Handles are given in ascending order without a gap.** -/
theorem issued_callAll : issued (s.callAll calls).1 = List.range' s.next (accepted calls) := by
  induction calls generalizing s with
  | nil => rfl
  | cons call calls ih =>
    rw [callAll]
    dsimp only
    rw [Call.issued_cons, issued_call, ih, next_call, List.range'_append_1, ← Call.accepted_cons]

theorem callAll_concat (call : Call α) :
    (s.callAll (calls ++ [call])).2 = ((s.callAll calls).2.call call).2 := by
  induction calls generalizing s with
  | nil => rfl
  | cons first calls ih => exact ih (s.call first).2

end Run

/-- **What is listed.** Entries are listed from their registration on until they are removed or everything is. -/
theorem mem_entries_callAll {calls : List (Call α)} {e : Entry α} :
    e ∈ ((empty : Scope α).callAll calls).2.entries ↔
      ∃ behind, e.RegisteredBefore behind calls ∧ ∀ call ∈ behind, call.Spares e.handle := by
  -- the last call decides over what is listed after the others, or it registers the entry
  induction calls using List.reverseRecOn with
  | nil =>
    refine ⟨nofun, ?_⟩
    rintro ⟨behind, ⟨before, split, -⟩, -⟩
    simp at split
  | append_singleton calls call ih =>
    rw [callAll_concat, mem_entries_call, ih, next_callAll]
    constructor
    · rintro (⟨⟨behind, ⟨before, rfl, number⟩, spared⟩, spares⟩ | ⟨rfl, number⟩)
      · refine ⟨behind ++ [call], ⟨before, by simp, number⟩, ?_⟩
        simpa using fun c hc => hc.elim (spared c) fun same => same ▸ spares
      · exact ⟨[], ⟨calls, rfl, number.trans (Nat.add_comm ..)⟩, nofun⟩
    · rintro ⟨behind, ⟨before, split, number⟩, spared⟩
      obtain rfl | ⟨others, last, rfl⟩ := List.eq_nil_or_concat behind
      · obtain ⟨rfl, same⟩ := List.append_inj' split rfl
        exact .inr ⟨(List.cons.inj same).1, number.trans (Nat.add_comm ..)⟩
      · rw [List.concat_eq_append, ← List.cons_append, ← List.append_assoc] at split
        obtain ⟨rfl, same⟩ := List.append_inj' split rfl
        obtain rfl := (List.cons.inj same).1
        rw [List.concat_eq_append, List.forall_mem_append] at spared
        exact .inl ⟨⟨others, ⟨before, rfl, number⟩, spared.1⟩, spared.2 _ (List.mem_singleton_self _)⟩

end Scope

end MockCluster
