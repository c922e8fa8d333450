import Mathlib.Logic.Function.Basic
import MockCluster.Expectation.Scope

/-!
# The history of expectations

Expectations are registered, removed and cleared at any time, by anybody, also by handlers while requests are under way.
A request collects candidates when it comes in and claims them later, one by one. In between they may be claimed for
other requests, or be removed, or both. A `Registry` is all scopes together with the candidates that requests under way
have still before them; `Registry.Step` is one thing that happens, and a `Registry.History` one thing after another, in
any order.

| event | what happens |
| --- | --- |
| `registered`, `removed`, `cleared` | a scope is changed |
| `begun`, `ended` | a request collects candidates; it is done |
| `refused`, `invoked` | a request reaches a candidate and claims it: in vain, or its handler is about to run |

`Account` says how an expectation stands at any time after it was registered. It holds after registration, every step
keeps it (`Account.step`), and so it holds along every history (`History.account`).
-/

namespace MockCluster

/-- What happens to expectations. -/
inductive Event (P : Type) where
  | registered (place : P) (handle : Nat) (limit : Option Nat)
  | removed (place : P) (handle : Nat)
  | cleared (place : P)
  | begun
  | refused (place : P) (handle : Nat)
  | invoked (place : P) (handle : Nat)
  | ended
  deriving DecidableEq, Repr

/-- The scopes of all places, and for each request under way the candidates it has still before it. -/
structure Registry (P α : Type) where
  scope : P → Scope α
  chains : List (List (P × Entry α))

namespace Registry

variable {P α : Type}

/-- Nothing was ever registered, and no request is under way. -/
def fresh : Registry P α := ⟨fun _ => .empty, []⟩

/-- An entry is listed at a place, or a request may still claim it there. -/
def Holds (r : Registry P α) (place : P) (e : Entry α) : Prop :=
  e ∈ (r.scope place).entries ∨ ∃ chain ∈ r.chains, (place, e) ∈ chain

/-- Whatever may still be claimed was registered once. -/
def Sound (r : Registry P α) : Prop := ∀ place e, r.Holds place e → e.handle < (r.scope place).next

theorem sound_fresh : (fresh : Registry P α).Sound := by
  rintro place e (he | ⟨chain, hc, -⟩)
  · simp [fresh, Scope.empty] at he
  · simp [fresh] at hc

section Holds

variable {r t : Registry P α} {place : P}

theorem Holds.of_subset {x : Entry α} (h : t.Holds place x)
    (scopes : ∀ other, (t.scope other).entries ⊆ (r.scope other).entries)
    (chains : ∀ chain ∈ t.chains, ∃ chain' ∈ r.chains, chain ⊆ chain') : r.Holds place x := by
  obtain hx | ⟨chain, hc, hx⟩ := h
  · exact .inl (scopes place hx)
  · obtain ⟨chain', hc', hsub⟩ := chains chain hc
    exact .inr ⟨chain', hc', hsub hx⟩

variable {before behind : List (List (P × Entry α))} {c : P × Entry α} {rest : List (P × Entry α)}

theorem holds_of_underWay (underWay : r.chains = before ++ (c :: rest) :: behind) : r.Holds c.1 c.2 :=
  .inr ⟨c :: rest, by simp [underWay], List.mem_cons_self⟩

theorem subset_of_underWay (underWay : r.chains = before ++ (c :: rest) :: behind) :
    ∀ chain ∈ before ++ rest :: behind, ∃ chain' ∈ r.chains, chain ⊆ chain' := by
  intro chain hc
  obtain hc | hc := List.mem_append.1 hc
  · exact ⟨chain, by simp [underWay, hc], List.Subset.refl _⟩
  · obtain rfl | hc := List.mem_cons.1 hc
    · exact ⟨c :: chain, by simp [underWay], List.subset_cons_self c chain⟩
    · exact ⟨chain, by simp [underWay, hc], List.Subset.refl _⟩

end Holds

variable [DecidableEq P]

/-- Replaces the scope of a place. -/
def set (r : Registry P α) (place : P) (s : Scope α) : Registry P α :=
  { r with scope := Function.update r.scope place s }

theorem scope_set (r : Registry P α) (place other : P) (s : Scope α) :
    (r.set place s).scope other = if other = place then s else r.scope other := Function.update_apply ..

/-- One thing happens. -/
inductive Step : Registry P α → Event P → Registry P α → Prop
  | register (r : Registry P α) (place : P) (limit : Option Nat) (content : α) :
      Step r (.registered place (r.scope place).next limit)
        (r.set place ((r.scope place).register limit content).2)
  | remove (r : Registry P α) (place : P) (handle : Nat) :
      Step r (.removed place handle) (r.set place ((r.scope place).erase handle))
  | clear (r : Registry P α) (place : P) : Step r (.cleared place) (r.set place (r.scope place).clear)
  /-- A request comes in: its candidates are listed at this moment. -/
  | begin (r : Registry P α) (candidates : List (P × Entry α))
      (listed : ∀ c ∈ candidates, c.2 ∈ (r.scope c.1).entries) :
      Step r .begun { r with chains := candidates :: r.chains }
  /-- A request passes over a candidate that is spent. -/
  | refuse (r : Registry P α) {before behind : List (List (P × Entry α))} {c : P × Entry α}
      {rest : List (P × Entry α)} (underWay : r.chains = before ++ (c :: rest) :: behind)
      (spent : (r.scope c.1).claim c.2 = none) :
      Step r (.refused c.1 c.2.handle) { r with chains := before ++ rest :: behind }
  /-- A request claims a candidate, and the handler is about to run in the state afterwards. -/
  | invoke (r : Registry P α) {before behind : List (List (P × Entry α))} {c : P × Entry α}
      {rest : List (P × Entry α)} {s : Scope α} (underWay : r.chains = before ++ (c :: rest) :: behind)
      (granted : (r.scope c.1).claim c.2 = some s) :
      Step r (.invoked c.1 c.2.handle) { r.set c.1 s with chains := before ++ rest :: behind }
  /-- A request is done, however it ended. -/
  | finish (r : Registry P α) {before behind : List (List (P × Entry α))} {rest : List (P × Entry α)}
      (underWay : r.chains = before ++ rest :: behind) : Step r .ended { r with chains := before ++ behind }

/-- One thing happens after another. -/
inductive History : Registry P α → List (Event P) → Registry P α → Prop
  | done (r : Registry P α) : History r [] r
  | next {r s t : Registry P α} {e : Event P} {es : List (Event P)} (step : Step r e s) (further : History s es t) :
      History r (e :: es) t

section Step

variable {r t : Registry P α} {e : Event P} {place : P} {handle : Nat} {limit : Option Nat}

theorem entries_set_subset {s : Scope α} (h : s.entries ⊆ (r.scope place).entries) (other : P) :
    ((r.set place s).scope other).entries ⊆ (r.scope other).entries := by
  rw [scope_set]
  split
  · rename_i ho
    rw [ho]
    exact h
  · exact List.Subset.refl _

/-- An entry that comes into play is one that is just registered. -/
theorem Step.holds (h : Step r e t) {x : Entry α} (hx : t.Holds place x) :
    r.Holds place x ∨ (x.handle = (r.scope place).next ∧ e = .registered place x.handle x.limit) := by
  have same : ∀ chain ∈ r.chains, ∃ chain' ∈ r.chains, chain ⊆ chain' := fun chain hc =>
    ⟨chain, hc, List.Subset.refl _⟩
  cases h with
  | register place' limit content =>
    obtain hx | hx := hx
    · rw [scope_set] at hx
      split at hx
      · rename_i hp
        subst hp
        obtain hx | hx := List.mem_append.1 hx
        · exact .inl (.inl hx)
        · obtain rfl := List.mem_singleton.1 hx
          exact .inr ⟨rfl, rfl⟩
      · exact .inl (.inl hx)
    · exact .inl (.inr hx)
  | remove place' handle =>
    exact .inl (hx.of_subset (entries_set_subset (List.filter_sublist.subset)) same)
  | clear place' => exact .inl (hx.of_subset (entries_set_subset (List.nil_subset _)) same)
  | begin candidates listed =>
    obtain hx | ⟨chain, hc, hx⟩ := hx
    · exact .inl (.inl hx)
    · obtain rfl | hc := List.mem_cons.1 hc
      · exact .inl (.inl (listed _ hx))
      · exact .inl (.inr ⟨chain, hc, hx⟩)
  | refuse underWay spent =>
    exact .inl (hx.of_subset (fun _ => List.Subset.refl _) (subset_of_underWay underWay))
  | invoke underWay granted =>
    exact .inl (hx.of_subset (entries_set_subset (Scope.entries_subset_of_claim granted))
      (subset_of_underWay underWay))
  | finish underWay =>
    refine .inl (hx.of_subset (fun _ => List.Subset.refl _) fun chain hc => ⟨chain, ?_, List.Subset.refl _⟩)
    rw [underWay]
    obtain hc | hc := List.mem_append.1 hc <;> simp [hc]

/-- A handle that was given is not given again. -/
theorem Step.next_le (h : Step r e t) (place : P) : (r.scope place).next ≤ (t.scope place).next := by
  have set_le {place' : P} {s : Scope α} (hs : (r.scope place').next ≤ s.next) :
      (r.scope place).next ≤ ((r.set place' s).scope place).next := by
    rw [scope_set]
    split
    · rename_i hp
      rw [hp]
      exact hs
    · exact Nat.le_refl _
  cases h with
  | register => exact set_le (by simp)
  | remove | clear => exact set_le (by simp)
  | begin | refuse | finish => exact Nat.le_refl _
  | invoke underWay granted => exact set_le (Nat.le_of_eq (Scope.next_of_claim granted).symm)

theorem Step.of_registered (h : Step r e t) (he : e = .registered place handle limit) :
    handle = (r.scope place).next ∧ (t.scope place).next = (r.scope place).next + 1 := by
  cases h with
  | register =>
    obtain ⟨rfl, rfl, rfl⟩ := Event.registered.inj he
    exact ⟨rfl, by simp [scope_set]⟩
  | _ => cases he

theorem Step.sound (h : Step r e t) (sound : r.Sound) : t.Sound := by
  intro place x hx
  obtain hx | ⟨hn, he⟩ := h.holds hx
  · exact Nat.lt_of_lt_of_le (sound place x hx) (h.next_le place)
  · rw [hn, (h.of_registered he).2]
    exact Nat.lt_succ_self _

/-- A handle has fired once more if its handler is invoked, and otherwise as often as before. -/
theorem Step.fired_eq (h : Step r e t) (sound : r.Sound) (place : P) (handle : Nat) :
    (t.scope place).fired handle =
      (r.scope place).fired handle + if e = .invoked place handle then 1 else 0 := by
  have set_eq {place' : P} {s : Scope α} (hs : s.fired handle = (r.scope place').fired handle) :
      ((r.set place' s).scope place).fired handle = (r.scope place).fired handle := by
    rw [scope_set]
    split
    · rename_i hp
      rw [hp]
      exact hs
    · rfl
  cases h with
  | register | remove | clear => simpa using set_eq (by simp)
  | begin | refuse | finish => simp
  | @invoke before behind c rest s underWay granted =>
    have hg := sound c.1 c.2 (holds_of_underWay underWay)
    change ((r.set c.1 s).scope place).fired handle = _
    rw [scope_set]
    by_cases hp : place = c.1
    · subst hp
      rw [if_pos rfl, Scope.fired_of_claim granted hg]
      by_cases hh : handle = c.2.handle
      · simp [hh]
      · simp [hh, Ne.symm hh]
    · simp [hp, Ne.symm hp]

/-- Handlers are invoked for entries that are not spent. -/
theorem Step.of_invoked (h : Step r e t) (he : e = .invoked place handle) :
    ∃ x, r.Holds place x ∧ x.handle = handle ∧ (r.scope place).isSpent x = false := by
  cases h with
  | @invoke before behind c rest s underWay granted =>
    obtain ⟨rfl, rfl⟩ := Event.invoked.inj he
    refine ⟨c.2, holds_of_underWay underWay, rfl, ?_⟩
    rw [← Bool.not_eq_true, ← Scope.claim_eq_none_iff, granted]
    exact Option.some_ne_none s
  | _ => cases he

/-- Only spent entries are passed over. -/
theorem Step.of_refused (h : Step r e t) (he : e = .refused place handle) :
    ∃ x, r.Holds place x ∧ x.handle = handle ∧ (r.scope place).isSpent x = true := by
  cases h with
  | @refuse before behind c rest underWay spent =>
    obtain ⟨rfl, rfl⟩ := Event.refused.inj he
    exact ⟨c.2, holds_of_underWay underWay, rfl, Scope.claim_eq_none_iff.1 spent⟩
  | _ => cases he

/-- A handle stays listed unless it is removed, its place is cleared, or its last firing begins. -/
theorem Step.mem_handles_iff (h : Step r e t) (given : handle < (r.scope place).next)
    (limited : ∀ x, r.Holds place x → x.handle = handle → x.limit = limit) :
    handle ∈ (t.scope place).handles ↔
      handle ∈ (r.scope place).handles ∧ e ≠ .removed place handle ∧ e ≠ .cleared place ∧
        (e = .invoked place handle → limit ≠ some ((r.scope place).fired handle + 1)) := by
  cases h with
  | register place' limit' content =>
    rw [scope_set]
    split
    · rename_i hp
      subst hp
      simp [Nat.ne_of_lt given]
    · simp
  | remove place' handle' =>
    rw [scope_set]
    split
    · rename_i hp
      subst hp
      simp [Scope.mem_handles_erase, eq_comm]
    · rename_i hp
      simp [Ne.symm hp]
  | clear place' =>
    rw [scope_set]
    split
    · rename_i hp
      subst hp
      simp
    · rename_i hp
      simp [Ne.symm hp]
  | @invoke before behind c rest s underWay granted =>
    change handle ∈ ((r.set c.1 s).scope place).handles ↔ _
    rw [scope_set]
    split
    · rename_i hp
      subst hp
      rw [Scope.mem_handles_of_claim granted]
      by_cases hh : handle = c.2.handle
      · subst hh
        simp [limited c.2 (holds_of_underWay underWay) rfl]
      · simp [hh, Ne.symm hh]
    · rename_i hp
      simp [Ne.symm hp]
  | _ => simp

/-- **What leaves a scope leaves the others there.** When an expectation is removed, or is not listed any more as its
handler is invoked, then all others are listed as before, in the same order, and have fired as often as before. -/
theorem Step.others (h : Step r e t)
    (gone : e = .removed place handle ∨ (e = .invoked place handle ∧ handle ∉ (t.scope place).handles)) (other : P) :
    (t.scope other).entries = (r.scope other).entries.filter (fun x => ¬(other = place ∧ x.handle = handle)) ∧
      ∀ handle', ¬(other = place ∧ handle' = handle) →
        (t.scope other).fired handle' = (r.scope other).fired handle' := by
  have elsewhere (ho : other ≠ place) :
      (r.scope other).entries.filter (fun x => ¬(other = place ∧ x.handle = handle)) = (r.scope other).entries :=
    List.filter_eq_self.2 fun x _ => by simp [ho]
  cases h with
  | remove =>
    obtain he | ⟨he, -⟩ := gone
    · obtain ⟨rfl, rfl⟩ := Event.removed.inj he
      rw [scope_set]
      split
      · rename_i ho
        subst ho
        exact ⟨by simp [Scope.erase], fun _ _ => rfl⟩
      · rename_i ho
        exact ⟨(elsewhere ho).symm, fun _ _ => rfl⟩
    · cases he
  | @invoke before behind c rest s underWay granted =>
    obtain he | ⟨he, hn⟩ := gone
    · cases he
    · obtain ⟨rfl, rfl⟩ := Event.invoked.inj he
      change c.2.handle ∉ ((r.set c.1 s).scope c.1).handles at hn
      rw [scope_set, if_pos rfl] at hn
      change ((r.set c.1 s).scope other).entries = _ ∧ ∀ handle', _ → ((r.set c.1 s).scope other).fired handle' = _
      rw [scope_set]
      split
      · rename_i ho
        subst ho
        refine ⟨by simpa using Scope.entries_of_claim granted hn, fun handle' hh => ?_⟩
        exact Scope.fired_of_claim_of_ne granted fun hc => hh ⟨rfl, hc⟩
      · rename_i ho
        exact ⟨(elsewhere ho).symm, fun _ _ => rfl⟩
  | _ => obtain he | ⟨he, -⟩ := gone <;> cases he

end Step

/-- How an expectation stands some time after it was registered under a handle, given what happened since then. -/
structure Account (place : P) (handle : Nat) (limit : Option Nat) (since : List (Event P)) (r : Registry P α) :
    Prop where
  given : handle < (r.scope place).next
  limited : ∀ x, r.Holds place x → x.handle = handle → x.limit = limit
  /-- The count of firings counts the invocations. -/
  fired_eq : (r.scope place).fired handle = since.count (.invoked place handle)
  /-- It was invoked whenever a request reached it, as long as the limit was not used up. -/
  invoked_eq :
    let reached := since.count (.invoked place handle) + since.count (.refused place handle)
    since.count (.invoked place handle) = limit.elim reached (min · reached)
  /-- It is listed until it is removed or cleared or its last firing begins. -/
  mem_handles_iff : handle ∈ (r.scope place).handles ↔
    .removed place handle ∉ since ∧ .cleared place ∉ since ∧
      ∀ n, limit = some n → 0 < n → since.count (.invoked place handle) < n

section Account

variable {r t : Registry P α} {e : Event P} {place : P} {handle : Nat} {limit : Option Nat} {since : List (Event P)}

theorem Account.registered (sound : r.Sound) (h : Step r (.registered place handle limit) t) :
    Account place handle limit [] t := by
  obtain ⟨rfl, hn⟩ := h.of_registered rfl
  refine ⟨by rw [hn]; exact Nat.lt_succ_self _, fun x hx hh => ?_, ?_, ?_, ?_⟩
  · obtain hx | ⟨-, he⟩ := h.holds hx
    · exact absurd hh (Nat.ne_of_lt (sound place x hx))
    · exact (Event.registered.inj he).2.2.symm
  · rw [h.fired_eq sound, Scope.fired_of_next_le (Nat.le_refl _)]
    simp
  · cases limit <;> simp
  · cases h with
    | register => simp [scope_set]

theorem Account.lt_of_invoked (h : Account place handle limit since r) (s : Step r e t)
    (he : e = .invoked place handle) {n : Nat} (hl : limit = some n) : since.count (.invoked place handle) < n := by
  obtain ⟨x, hx, rfl, hs⟩ := s.of_invoked he
  rw [← h.fired_eq]
  exact Scope.isSpent_eq_false_iff.1 hs n ((h.limited x hx rfl).trans hl)

theorem Account.le_of_refused (h : Account place handle limit since r) (s : Step r e t)
    (he : e = .refused place handle) : ∃ n, limit = some n ∧ n ≤ since.count (.invoked place handle) := by
  obtain ⟨x, hx, rfl, hs⟩ := s.of_refused he
  rw [← h.fired_eq, ← h.limited x hx rfl]
  exact Scope.isSpent_eq_true_iff.1 hs

/-- A limit is not used up after a step if it was not used up before and the step is not the last firing. -/
theorem Account.lt_limit_iff (h : Account place handle limit since r) (s : Step r e t) :
    ((∀ n, limit = some n → 0 < n → since.count (.invoked place handle) < n) ∧
        (e = .invoked place handle → limit ≠ some (since.count (.invoked place handle) + 1))) ↔
      ∀ n, limit = some n → 0 < n → (since ++ [e]).count (.invoked place handle) < n := by
  rw [List.count_append, List.count_singleton]
  by_cases hinv : e = .invoked place handle
  · cases limit with
    | none => simp
    | some n =>
      have hlt : since.count (.invoked place handle) < n := h.lt_of_invoked s hinv rfl
      simp only [hinv, Option.some.injEq, forall_eq', true_implies, ne_eq, beq_self_eq_true, if_true]
      omega
  · simp [hinv]

/-- **What happens is put to the account.** -/
theorem Account.step (sound : r.Sound) (h : Account place handle limit since r) (s : Step r e t) :
    Account place handle limit (since ++ [e]) t where
  given := Nat.lt_of_lt_of_le h.given (s.next_le place)
  limited x hx hh := by
    obtain hx | ⟨hn, -⟩ := s.holds hx
    · exact h.limited x hx hh
    · exact absurd (hh.symm.trans hn) (Nat.ne_of_lt h.given)
  fired_eq := by
    rw [s.fired_eq sound, h.fired_eq, List.count_append, List.count_singleton]
    by_cases he : e = .invoked place handle <;> simp [he]
  invoked_eq := by
    have hi := h.invoked_eq
    simp only [List.count_append, List.count_singleton, beq_iff_eq]
    by_cases hinv : e = .invoked place handle
    · have hlt : ∀ n, limit = some n → since.count (.invoked place handle) < n := fun n => h.lt_of_invoked s hinv
      subst hinv
      simp only [if_true, reduceCtorEq, if_false]
      cases limit with
      | none =>
        simp only [Option.elim_none] at hi ⊢
        omega
      | some n =>
        have := hlt n rfl
        simp only [Option.elim_some] at hi ⊢
        omega
    · by_cases href : e = .refused place handle
      · obtain ⟨n, rfl, hle⟩ := h.le_of_refused s href
        subst href
        simp only [if_true, reduceCtorEq, if_false, Option.elim_some] at hi ⊢
        omega
      · simpa only [hinv, href, if_false, Nat.add_zero] using hi
  mem_handles_iff := by
    rw [s.mem_handles_iff h.given h.limited, h.mem_handles_iff, h.fired_eq, ← h.lt_limit_iff s]
    simp only [List.mem_append, List.mem_singleton, not_or]
    constructor
    · rintro ⟨⟨hr, hc, hmore⟩, hr', hc', hlast⟩
      exact ⟨⟨hr, Ne.symm hr'⟩, ⟨hc, Ne.symm hc'⟩, hmore, hlast⟩
    · rintro ⟨⟨hr, hr'⟩, ⟨hc, hc'⟩, hmore, hlast⟩
      exact ⟨⟨hr, hc, hmore⟩, Ne.symm hr', Ne.symm hc', hlast⟩

end Account

namespace History

variable {r m t : Registry P α} {e : Event P} {es first second : List (Event P)}

theorem trans (h : History r first m) (h' : History m second t) : History r (first ++ second) t := by
  induction h with
  | done => exact h'
  | next step _ ih => exact .next step (ih h')

/-- A history can be told in two parts. -/
theorem split (h : History r (first ++ second) t) : ∃ m, History r first m ∧ History m second t := by
  induction first generalizing r with
  | nil => exact ⟨r, .done r, h⟩
  | cons e first ih =>
    cases h with
    | next step further =>
      obtain ⟨m, h₁, h₂⟩ := ih further
      exact ⟨m, .next step h₁, h₂⟩

theorem sound (h : History r es t) (sound : r.Sound) : t.Sound := by
  induction h with
  | done => exact sound
  | next step _ ih => exact ih (step.sound sound)

theorem next_le (h : History r es t) (place : P) : (r.scope place).next ≤ (t.scope place).next := by
  induction h with
  | done => exact Nat.le_refl _
  | next step _ ih => exact Nat.le_trans (step.next_le place) ih

/-- A request reaches only what was registered before. -/
theorem given_of_reached (h : History r es t) (sound : r.Sound) {place : P} {handle : Nat}
    (he : .invoked place handle ∈ es ∨ .refused place handle ∈ es) : handle < (t.scope place).next := by
  induction h with
  | done => simp at he
  | @next r s t e es step further ih =>
    have now (hx : ∃ x, r.Holds place x ∧ x.handle = handle) : handle < (t.scope place).next := by
      obtain ⟨x, hx, rfl⟩ := hx
      exact Nat.lt_of_lt_of_le (sound place x hx) (Nat.le_trans (step.next_le place) (further.next_le place))
    simp only [List.mem_cons] at he
    obtain (he | he) | (he | he) := he
    · obtain ⟨x, hx, hh, -⟩ := step.of_invoked he.symm
      exact now ⟨x, hx, hh⟩
    · exact ih (step.sound sound) (.inl he)
    · obtain ⟨x, hx, hh, -⟩ := step.of_refused he.symm
      exact now ⟨x, hx, hh⟩
    · exact ih (step.sound sound) (.inr he)

theorem account_append {place : P} {handle : Nat} {limit : Option Nat} {past since : List (Event P)}
    (h : History m since t) (sound : m.Sound) (earlier : Account place handle limit past m) :
    Account place handle limit (past ++ since) t := by
  induction h generalizing past with
  | done => rwa [List.append_nil]
  | next step _ ih =>
    have := ih (step.sound sound) (earlier.step sound step)
    rwa [List.append_assoc] at this

/-- **Every expectation has an account.** Nothing reached its handle before it was registered. -/
theorem account {place : P} {handle : Nat} {limit : Option Nat} {before since : List (Event P)}
    (h : History fresh (before ++ .registered place handle limit :: since) t) :
    Account place handle limit since t ∧ .invoked place handle ∉ before ∧ .refused place handle ∉ before := by
  obtain ⟨m, hbefore, hafter⟩ := h.split
  cases hafter with
  | next step further =>
    have hm : m.Sound := hbefore.sound sound_fresh
    have hn : handle = (m.scope place).next := (step.of_registered rfl).1
    -- The handle is the next one here, and what was reached before is below it.
    refine ⟨further.account_append (step.sound hm) (.registered hm step), fun he => ?_, fun he => ?_⟩
    · exact absurd (hbefore.given_of_reached sound_fresh (.inl he)) (hn ▸ Nat.lt_irrefl _)
    · exact absurd (hbefore.given_of_reached sound_fresh (.inr he)) (hn ▸ Nat.lt_irrefl _)

end History

/-- How an expectation stands after everything that happened, in terms of how often its handler was invoked and how
often it was passed over. `since` is what happened after it was registered. -/
structure Counted (r : Registry P α) (es since : List (Event P)) (place : P) (handle : Nat) (limit : Option Nat) :
    Prop where
  fired_eq : (r.scope place).fired handle = es.count (.invoked place handle)
  /-- It was invoked as often as a request reached it, but not more often than its limit allows. -/
  limited : ∀ n, limit = some n → es.count (.invoked place handle) =
    min n (es.count (.invoked place handle) + es.count (.refused place handle))
  /-- Without a limit it was never passed over. -/
  unlimited : limit = none → es.count (.refused place handle) = 0
  /-- It is listed until it is removed or cleared or its last invocation begins. -/
  mem_handles_iff : handle ∈ (r.scope place).handles ↔
    .removed place handle ∉ since ∧ .cleared place ∉ since ∧
      ∀ n, limit = some n → 0 < n → es.count (.invoked place handle) < n

/-- **Expectations fire within their limits.** -/
theorem History.counted {r : Registry P α} {before since : List (Event P)} {place : P} {handle : Nat}
    {limit : Option Nat} (h : History fresh (before ++ .registered place handle limit :: since) r) :
    Counted r (before ++ .registered place handle limit :: since) since place handle limit := by
  obtain ⟨account, notInvoked, notRefused⟩ := h.account
  have count (e : Event P) (he : e ∉ before) (hne : .registered place handle limit ≠ e) :
      (before ++ .registered place handle limit :: since).count e = since.count e := by
    rw [List.count_append, List.count_eq_zero_of_not_mem he, List.count_cons_of_ne hne, Nat.zero_add]
  have invoked := count _ notInvoked nofun
  have refused := count _ notRefused nofun
  have total := account.invoked_eq
  refine ⟨?_, ?_, ?_, ?_⟩
  · rw [invoked]
    exact account.fired_eq
  · rintro n rfl
    rw [invoked, refused]
    exact total
  · rintro rfl
    rw [refused]
    simp only [Option.elim_none] at total
    omega
  · rw [invoked]
    exact account.mem_handles_iff

end Registry

end MockCluster
