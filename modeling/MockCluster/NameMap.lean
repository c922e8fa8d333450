/-!
# Maps from names

A finite map whose keys are texts, kept as a list of pairs in ascending order of the names, each name once. `insert`
replaces a value in place or puts a new pair where its name belongs. Two maps are equal if they give every name the same
value (`ext_get?`).
-/

namespace MockCluster

/-- A finite map from names. -/
structure NameMap (α : Type) where
  /-- The pairs in ascending order of their names. -/
  entries : List (String × α)
  /-- No name stands twice or behind a later one. -/
  ascending : (entries.map (·.1)).Pairwise (· < ·)
  deriving DecidableEq, Repr

namespace NameMap

variable {α β : Type}

/-- The map without any name. -/
def empty : NameMap α := ⟨[], .nil⟩

instance : Inhabited (NameMap α) := ⟨empty⟩

/-- The value of a name. -/
def get? (m : NameMap α) (name : String) : Option α :=
  (m.entries.find? (·.1 = name)).map (·.2)

/-- Whether a name has a value. -/
def contains (m : NameMap α) (name : String) : Bool := (m.get? name).isSome

/-- Puts a pair where it belongs. -/
def insertEntry (name : String) (value : α) : List (String × α) → List (String × α)
  | [] => [(name, value)]
  | (other, old) :: rest =>
    if other = name then (name, value) :: rest
    else if name < other then (name, value) :: (other, old) :: rest
    else (other, old) :: insertEntry name value rest

theorem mem_insertEntry {name : String} {value : α} {entries : List (String × α)} {entry : String × α}
    (h : entry ∈ insertEntry name value entries) : entry = (name, value) ∨ entry ∈ entries := by
  fun_induction insertEntry name value entries with
  | case1 => exact .inl (List.mem_singleton.1 h)
  | case2 => exact (List.mem_cons.1 h).imp_right (List.mem_cons_of_mem _)
  | case3 => exact List.mem_cons.1 h
  | case4 other old rest _ _ ih =>
    obtain rfl | h := List.mem_cons.1 h
    · exact .inr List.mem_cons_self
    · exact (ih h).imp_right (List.mem_cons_of_mem _)

theorem ascending_insertEntry {name : String} {value : α} {entries : List (String × α)}
    (h : (entries.map (·.1)).Pairwise (· < ·)) : ((insertEntry name value entries).map (·.1)).Pairwise (· < ·) := by
  rw [List.pairwise_map] at h ⊢
  fun_induction insertEntry name value entries with
  | case1 => exact List.pairwise_singleton _ _
  | case2 old rest => exact List.pairwise_cons.2 (List.pairwise_cons.1 h)
  | case3 other old rest _ before =>
    refine List.pairwise_cons.2 ⟨fun entry he => ?_, h⟩
    obtain rfl | he := List.mem_cons.1 he
    · exact before
    · exact String.lt_trans before ((List.pairwise_cons.1 h).1 entry he)
  | case4 other old rest differs notBefore ih =>
    have behind : other < name := Std.lt_of_le_of_ne (String.not_lt.1 notBefore) differs
    refine List.pairwise_cons.2 ⟨fun entry he => ?_, ih (List.pairwise_cons.1 h).2⟩
    obtain rfl | he := mem_insertEntry he
    · exact behind
    · exact (List.pairwise_cons.1 h).1 entry he

/-- Gives a name a value, replacing an earlier one. -/
def insert (m : NameMap α) (name : String) (value : α) : NameMap α :=
  ⟨insertEntry name value m.entries, ascending_insertEntry m.ascending⟩

/-- Keeps only some of the names. -/
def filter (keep : String → Bool) (m : NameMap α) : NameMap α :=
  ⟨m.entries.filter fun entry => keep entry.1, m.ascending.sublist (List.filter_sublist.map _)⟩

/-- Takes a name away. -/
def erase (m : NameMap α) (name : String) : NameMap α := m.filter (· ≠ name)

/-- Changes every value. -/
def map (f : α → β) (m : NameMap α) : NameMap β where
  entries := m.entries.map fun (name, value) => (name, f value)
  ascending := by
    rw [List.map_map]
    exact m.ascending

/-- The names in ascending order. -/
def names (m : NameMap α) : List String := m.entries.map (·.1)

/-- The values in ascending order of their names. -/
def values (m : NameMap α) : List α := m.entries.map (·.2)

/-- The map of a list of pairs; of two pairs with one name the later one counts. -/
def ofList (pairs : List (String × α)) : NameMap α :=
  pairs.foldl (fun m (name, value) => m.insert name value) empty

@[simp] theorem get?_empty (name : String) : (empty : NameMap α).get? name = none := rfl

theorem get?_insert (m : NameMap α) (name other : String) (value : α) :
    (m.insert name value).get? other = if other = name then some value else m.get? other := by
  simp only [insert, get?]
  generalize m.entries = entries
  induction entries with
  | nil => by_cases h : other = name <;> simp [insertEntry, h, Eq.comm]
  | cons entry rest ih =>
    obtain ⟨key, old⟩ := entry
    unfold insertEntry
    by_cases hk : key = name
    · subst hk
      by_cases h : other = key
      · simp [h]
      · have : key ≠ other := fun e => h e.symm
        simp [h, this]
    · by_cases hl : name < key
      · by_cases h : other = name
        · subst h; simp [hk, hl]
        · have : name ≠ other := fun e => h e.symm
          simp [hk, hl, h, this]
      · simp only [hk, hl, if_false]
        by_cases ho : key = other
        · subst ho; simp [hk]
        · simpa [ho] using ih

theorem get?_filter (keep : String → Bool) (m : NameMap α) (name : String) :
    (m.filter keep).get? name = if keep name then m.get? name else none := by
  simp only [filter, get?, List.find?_filter]
  cases hk : keep name with
  | true =>
    simp only [if_true]
    congr 2
    funext entry
    by_cases he : entry.1 = name <;> simp [he, hk]
  | false =>
    have none : m.entries.find? (fun entry => keep entry.1 && decide (entry.1 = name)) = none :=
      List.find?_eq_none.2 fun entry _ => by
        by_cases he : entry.1 = name <;> simp [he, hk]
    simp [none]

theorem get?_erase (m : NameMap α) (name other : String) :
    (m.erase name).get? other = if other = name then none else m.get? other := by
  by_cases h : other = name <;> simp [erase, get?_filter, h]

theorem get?_map (f : α → β) (m : NameMap α) (name : String) :
    (m.map f).get? name = (m.get? name).map f := by
  simp only [map, get?, List.find?_map, Option.map_map]
  rfl

section Entries

variable {m m' : NameMap α} {name : String} {value : α} {entries : List (String × α)}

theorem distinct (m : NameMap α) : (m.entries.map (·.1)).Pairwise (· ≠ ·) := by
  refine m.ascending.imp fun {a b} less => ?_
  rintro rfl
  exact String.lt_irrefl a less

/-- If every name stands once, what is found is what is there. -/
theorem find?_eq_some_iff_mem (distinct : (entries.map (·.1)).Pairwise (· ≠ ·)) :
    (entries.find? (·.1 = name)).map (·.2) = some value ↔ (name, value) ∈ entries := by
  constructor
  · intro h
    obtain ⟨entry, he, rfl⟩ := Option.map_eq_some_iff.1 h
    obtain rfl : entry.1 = name := by simpa using List.find?_some he
    exact List.mem_of_find?_eq_some he
  · intro h
    obtain ⟨before, behind, rfl⟩ := List.append_of_mem h
    -- no entry before it has the same name
    rw [List.pairwise_map, List.pairwise_append] at distinct
    have found : (before ++ (name, value) :: behind).find? (·.1 = name) = some (name, value) := by
      rw [List.find?_eq_some_iff_append]
      refine ⟨decide_eq_true rfl, before, behind, rfl, fun entry hb => ?_⟩
      simpa using distinct.2.2 entry hb (name, value) List.mem_cons_self
    rw [found]
    rfl

theorem get?_eq_some_iff : m.get? name = some value ↔ (name, value) ∈ m.entries := find?_eq_some_iff_mem m.distinct

theorem mem_entries_of_get? (h : m.get? name = some value) : (name, value) ∈ m.entries := get?_eq_some_iff.1 h

theorem contains_iff_mem_names : m.contains name = true ↔ name ∈ m.names := by
  rw [contains, Option.isSome_iff_exists, names, List.mem_map]
  constructor
  · rintro ⟨value, found⟩
    exact ⟨_, mem_entries_of_get? found, rfl⟩
  · rintro ⟨⟨_, value⟩, he, rfl⟩
    exact ⟨value, get?_eq_some_iff.2 he⟩

/-- **A map is what it says about names.** -/
theorem ext_get? (h : ∀ name, m.get? name = m'.get? name) : m = m' := by
  have ordered (m : NameMap α) : m.entries.Pairwise fun a b => a.1 < b.1 := List.pairwise_map.1 m.ascending
  have nodup (m : NameMap α) : m.entries.Nodup :=
    (List.pairwise_map.1 m.distinct).imp fun differs same => differs (congrArg Prod.fst same)
  have same : m.entries.Perm m'.entries := by
    rw [List.perm_ext_iff_of_nodup (nodup m) (nodup m')]
    rintro ⟨name, value⟩
    rw [← get?_eq_some_iff, ← get?_eq_some_iff, h name]
  have entries_eq : m.entries = m'.entries :=
    same.eq_of_pairwise (fun _ _ _ _ less less' => absurd less' (String.lt_asymm less)) (ordered m) (ordered m')
  cases m
  cases m'
  cases entries_eq
  rfl

/-- If values are set one after the other, and for every name once, then what is read for a name in the end is the value
that was set for it, or else what was there before. -/
theorem foldl_set {σ γ : Type} {set : σ → String × α → σ} (read : σ → Option γ) {f : α → γ}
    (hit : ∀ s value, read (set s (name, value)) = some (f value))
    (miss : ∀ s entry, entry.1 ≠ name → read (set s entry) = read s)
    (distinct : (entries.map (·.1)).Pairwise (· ≠ ·)) (s : σ) :
    read (entries.foldl set s) = ((entries.find? (·.1 = name)).map fun entry => f entry.2).or (read s) := by
  induction entries generalizing s with
  | nil => rfl
  | cons entry rest ih =>
    obtain ⟨others, distinct⟩ := List.pairwise_cons.1 distinct
    rw [List.foldl_cons, ih distinct, List.find?_cons]
    by_cases h : entry.1 = name
    · subst h
      have absent : rest.find? (·.1 = entry.1) = none := List.find?_eq_none.2 fun other ho => by
        simpa using (others other.1 (List.mem_map_of_mem ho)).symm
      simp [absent, hit s entry.2]
    · simp [h, miss]

/-- Of a list in which every name stands once, the map has all entries. -/
theorem get?_ofList (distinct : (entries.map (·.1)).Pairwise (· ≠ ·)) (name : String) :
    (ofList entries).get? name = (entries.find? (·.1 = name)).map (·.2) := by
  let put (m : NameMap α) (entry : String × α) : NameMap α := m.insert entry.1 entry.2
  have hit (m : NameMap α) (value : α) : (put m (name, value)).get? name = some (id value) := by
    simp [put, get?_insert]
  have miss (m : NameMap α) (entry : String × α) (differs : entry.1 ≠ name) :
      (put m entry).get? name = m.get? name := by
    simp [put, get?_insert, differs.symm]
  exact (foldl_set (·.get? name) hit miss distinct empty).trans Option.or_none

@[simp] theorem ofList_entries (m : NameMap α) : ofList m.entries = m :=
  ext_get? fun name => get?_ofList m.distinct name

end Entries

end NameMap

end MockCluster
