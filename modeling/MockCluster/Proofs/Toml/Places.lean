import MockCluster.Toml.Document

/-!
# Places in a document under construction

A document grows where the last header points: on the way, tables that are missing are made, and of an array of tables
the last one is taken (`Section.descend`). A `Spot` is such a place, told by what can be done there. What is done to the
table at the place is done within a context, which is the rest of the document.

| the document                      | is given by    | and a path leads to                  |
|-----------------------------------|----------------|--------------------------------------|
| itself                            | `frame_root`   | the document                         |
| with a table at a fresh key       | `Frame.table`  | that table                           |
| with an array at a fresh key      | `Frame.last`   | its last table                       |
| without a table at a fresh key    | `Spot.absent`  | a table that is made on the way      |

At a spot a table can be put under a fresh key (`Spot.close`), or at the end of an array (`Spot.append_first`,
`Spot.append_next`).
-/

namespace MockCluster.Toml

/-- What stands in a table under construction. -/
abbrev Items := List (String × Node)

namespace Section

variable {s root : Section} {f : Section → Option Section} {path : List String} {key : String} {node : Node}
  {items before inner : Items} {implicit : Bool} {context : Items → Items}

/-! ## Fresh keys -/

theorem get?_of_fresh (fresh : key ∉ s.items.map (·.1)) : s.get? key = none := by
  rw [get?, Option.map_eq_none_iff, List.find?_eq_none]
  intro item hi
  simpa using fun (he : item.1 = key) => fresh (he ▸ List.mem_map_of_mem hi)

theorem put_of_fresh (fresh : key ∉ s.items.map (·.1)) (node : Node) :
    s.put key node = { s with items := s.items ++ [(key, node)] } := by
  have none : ¬s.items.any (·.1 = key) = true := by
    rw [List.any_eq_true]
    rintro ⟨item, hi, he⟩
    exact fresh (of_decide_eq_true he ▸ List.mem_map_of_mem hi)
  rw [put, if_neg none]

theorem get?_concat (fresh : key ∉ before.map (·.1)) (implicit dotted : Bool) (node : Node) :
    get? ⟨implicit, dotted, before ++ [(key, node)]⟩ key = some node := by
  have none : before.find? (·.1 = key) = none := by
    rw [List.find?_eq_none]
    intro item hi
    simpa using fun (he : item.1 = key) => fresh (he ▸ List.mem_map_of_mem hi)
  rw [get?, List.find?_append, none]
  simp

theorem put_concat (fresh : key ∉ before.map (·.1)) (implicit dotted : Bool) (old node : Node) :
    put ⟨implicit, dotted, before ++ [(key, old)]⟩ key node = ⟨implicit, dotted, before ++ [(key, node)]⟩ := by
  have same : before.map (fun item => if item.1 = key then (item.1, node) else item) = before := by
    refine (List.map_congr_left fun item hi => ?_).trans (List.map_id _)
    rw [if_neg (show ¬item.1 = key from fun he => fresh (he ▸ List.mem_map_of_mem hi)), id]
  rw [put, if_pos (by simp)]
  simp only [List.map_append, List.map_cons, List.map_nil, if_true]
  congr 2

/-! ## Changing what is deep inside -/

theorem descend_append (isDotted : Bool) (f : Section → Option Section) (path path' : List String) (s : Section) :
    descend isDotted f (path ++ path') s = descend isDotted (descend isDotted f path') path s := by
  induction path generalizing s with
  | nil => rfl
  | cons key path ih =>
    simp only [List.cons_append, descend, ih]

/-- Whether a table is implicit or dotted stays as it is. -/
def KeepsKind (f : Section → Option Section) : Prop :=
  ∀ s s', f s = some s' → s'.isImplicit = s.isImplicit ∧ s'.isDotted = s.isDotted

theorem put_kind (s : Section) (key : String) (node : Node) :
    (s.put key node).isImplicit = s.isImplicit ∧ (s.put key node).isDotted = s.isDotted := by
  unfold put
  split <;> exact ⟨rfl, rfl⟩

theorem KeepsKind.descend (h : KeepsKind f) (path : List String) : KeepsKind (descend false f path) := by
  cases path with
  | nil => exact h
  | cons key path =>
    intro s s' hs
    simp only [Section.descend] at hs
    split at hs
    · obtain ⟨child, -, rfl⟩ := Option.map_eq_some_iff.1 hs
      exact put_kind ..
    · cases hs
    · split at hs
      · cases hs
      · obtain ⟨child, -, rfl⟩ := Option.map_eq_some_iff.1 hs
        exact put_kind ..
    · split at hs
      · cases hs
      · obtain ⟨child, -, rfl⟩ := Option.map_eq_some_iff.1 hs
        exact put_kind ..

/-- A place in a document: what is done at the end of the path is done to a table that holds `items`, and what comes of
it is put where the context has a place for it. -/
structure Spot (root : Section) (path : List String) (implicit : Bool) (context : Items → Items) (items : Items) :
    Prop where
  descend : ∀ f, KeepsKind f → root.descend false f path =
    (f ⟨implicit, false, items⟩).map fun child => ⟨false, false, context child.items⟩
  opened : ∀ path' key, root.opened (path ++ path') key = opened ⟨implicit, false, items⟩ path' key

/-- A context in which there is a place at the end of a path, whatever the table there holds. -/
def Frame (path : List String) (implicit : Bool) (context : Items → Items) : Prop :=
  ∀ items, Spot ⟨false, false, context items⟩ path implicit context items

theorem KeepsKind.eq (keeps : KeepsKind f) {s' : Section} (hf : f s = some s') : s' = { s with items := s'.items } := by
  obtain ⟨implicit, dotted⟩ := keeps _ _ hf
  rw [← implicit, ← dotted]

/-- The document itself. -/
theorem frame_root : Frame [] false id := by
  intro items
  refine ⟨fun f keeps => ?_, fun path' key => rfl⟩
  cases hf : f ⟨false, false, items⟩ with
  | none => simp only [Section.descend, id, hf, Option.map_none]
  | some child =>
    simp only [Section.descend, id, hf, Option.map_some, Option.some.injEq]
    exact keeps.eq hf

/-- A table that is missing will be opened on the way to what is in it. -/
theorem Spot.absent (spot : Spot root path implicit context items) (fresh : key ∉ items.map (·.1)) :
    Spot root (path ++ [key]) true (fun inner => context (items ++ [(key, .table true false inner)])) [] := by
  have none : get? ⟨implicit, false, items⟩ key = none := get?_of_fresh fresh
  refine ⟨fun f keeps => ?_, fun path' key' => ?_⟩
  · rw [descend_append, spot.descend _ (keeps.descend [key])]
    simp only [Section.descend, none, onTheWay]
    cases hf : f ⟨true, false, []⟩ with
    | none => rfl
    | some child =>
      rw [keeps.eq hf]
      simp only [Option.map_some, put_of_fresh (s := ⟨implicit, false, items⟩) fresh, Section.node]
  · rw [List.append_assoc, spot.opened]
    have start : Section.opened ⟨true, false, []⟩ path' key' = some empty := by
      cases path' <;> rfl
    rw [start]
    simp only [List.singleton_append, Section.opened, none]

/-- A table stands in its context. -/
theorem Frame.table (frame : Frame path implicit context) (fresh : key ∉ before.map (·.1)) (implicit' : Bool) :
    Frame (path ++ [key]) implicit' fun inner => context (before ++ [(key, .table implicit' false inner)]) := by
  intro inner
  have spot := frame (before ++ [(key, .table implicit' false inner)])
  have found := get?_concat fresh implicit false (.table implicit' false inner)
  refine ⟨fun f keeps => ?_, fun path' key' => ?_⟩
  · rw [descend_append, spot.descend _ (keeps.descend [key])]
    simp only [Section.descend, found]
    cases hf : f ⟨implicit', false, inner⟩ with
    | none => rfl
    | some child =>
      rw [keeps.eq hf]
      simp [put_concat fresh, Section.node]
  · rw [List.append_assoc, spot.opened]
    simp only [List.singleton_append, opened, found]

/-- The last table of an array stands in its context. -/
theorem Frame.last (frame : Frame path implicit context) (fresh : key ∉ before.map (·.1)) (tables : List Items) :
    Frame (path ++ [key]) false fun inner => context (before ++ [(key, .tables (tables ++ [inner]))]) := by
  intro inner
  have spot := frame (before ++ [(key, .tables (tables ++ [inner]))])
  have found := get?_concat fresh implicit false (.tables (tables ++ [inner]))
  refine ⟨fun f keeps => ?_, fun path' key' => ?_⟩
  · rw [descend_append, spot.descend _ (keeps.descend [key])]
    simp only [Section.descend, found, List.getLast?_concat, List.dropLast_concat]
    cases hf : f ⟨false, false, inner⟩ with
    | none => rfl
    | some child => simp [put_concat fresh]
  · rw [List.append_assoc, spot.opened]
    simp only [List.singleton_append, opened, found, List.getLast?_concat]

section Edits

variable {child : Section}

/-- A table is put into the table at a place. -/
theorem Spot.close (spot : Spot root path implicit context items) (fresh : key ∉ items.map (·.1)) (child : Section) :
    root.close path key child = some ⟨false, false, context (items ++ [(key, child.node)])⟩ := by
  have keeps : KeepsKind fun s => some (s.put key child.node) := by
    rintro s s' ⟨⟩
    exact put_kind ..
  rw [Section.close, spot.descend _ keeps, Option.map_some, put_of_fresh fresh]

theorem Spot.append (spot : Spot root path implicit context items) (key : String) (child : Section) :
    root.append path key child = (Section.append ⟨implicit, false, items⟩ [] key child).map fun s =>
      ⟨false, false, context s.items⟩ := by
  refine spot.descend _ fun s s' hs => ?_
  split at hs <;> cases hs <;> exact put_kind ..

/-- The first table of an array is put into the table at a place. -/
theorem Spot.append_first (spot : Spot root path implicit context items) (fresh : key ∉ items.map (·.1))
    (child : Section) :
    root.append path key child = some ⟨false, false, context (items ++ [(key, .tables [child.items])])⟩ := by
  have none : get? ⟨implicit, false, items⟩ key = none := get?_of_fresh fresh
  rw [spot.append]
  simp only [Section.append, Section.descend, none, put_of_fresh (s := ⟨implicit, false, items⟩) fresh,
    Option.map_some]

/-- A further table is put into an array in the table at a place. -/
theorem Spot.append_next {tables : List Items}
    (spot : Spot root path implicit context (before ++ [(key, .tables tables)])) (fresh : key ∉ before.map (·.1))
    (child : Section) :
    root.append path key child =
      some ⟨false, false, context (before ++ [(key, .tables (tables ++ [child.items]))])⟩ := by
  rw [spot.append]
  simp only [Section.append, Section.descend, get?_concat fresh, put_concat fresh, Option.map_some]

end Edits

/-- A table with a fresh key is opened empty. -/
theorem Spot.opened_of_fresh (spot : Spot root path implicit context items) (fresh : key ∉ items.map (·.1)) :
    root.opened path key = some empty := by
  have here := spot.opened [] key
  rw [List.append_nil] at here
  have none : get? ⟨implicit, false, items⟩ key = none := get?_of_fresh fresh
  simp only [here, Section.opened, none]

end Section

end MockCluster.Toml
