import Mathlib.Data.List.Forall2
import Mathlib.Data.List.TakeWhile
import MockCluster.Http.PathPattern
import MockCluster.Proofs.Text.Parts

/-!
# What a pattern matches

A pattern and a path are texts. Both are cut at slashes, and empty pieces are dropped, so slashes at the ends and more
than one slash in a row mean nothing. What is left of them is compared from the front:

| segment of the pattern | agrees with |
| --- | --- |
| a name in braces | any segment, which is captured under the name |
| `*` | all segments that are left, also with none |
| any other | the same segment |

What stands behind the first `*` of a pattern is never looked at. A name that stands twice in front of it captures
twice, and the later segment counts.
-/

namespace MockCluster

namespace Http

section Segments

/-- A slash keeps apart the segments on both sides. -/
theorem pathSegments_append (path rest : String) :
    pathSegments (path ++ "/" ++ rest) = pathSegments path ++ pathSegments rest := by
  have split : (path ++ "/" ++ rest).toList = path.toList ++ '/' :: rest.toList := by simp
  rw [pathSegments, split, pieces_append_cons (by simp), List.filter_append, List.map_append]
  rfl

/-- A text without a slash is one segment. -/
theorem pathSegments_of_not_mem {name : String} (h : name ≠ "") (slash : '/' ∉ name.toList) :
    pathSegments name = [name] := by
  have one : pieces (· = '/') name.toList = [name.toList] := pieces_of_not_mem slash
  have filled : name.toList ≠ [] := by simpa using h
  simp [pathSegments, one, filled]

/-- A segment is not empty, and consists of characters of the path other than slashes. -/
theorem mem_pathSegments {segment path : String} (h : segment ∈ pathSegments path) :
    segment ≠ "" ∧ '/' ∉ segment.toList ∧ segment.toList ⊆ path.toList := by
  obtain ⟨piece, hp, rfl⟩ := List.mem_map.1 h
  obtain ⟨hp, filled⟩ := List.mem_filter.1 hp
  refine ⟨?_, fun slash => ?_, fun c hc => ?_⟩
  · simpa using filled
  · rw [String.toList_ofList] at slash
    simpa using (mem_of_mem_pieces hp slash).2
  · rw [String.toList_ofList] at hc
    exact (mem_of_mem_pieces hp hc).1

/-- Texts that differ in slashes at the ends and in the number of slashes in a row. -/
inductive Respaced : String → String → Prop where
  | refl (text : String) : Respaced text text
  | leading (text : String) : Respaced text ("/" ++ text)
  | trailing (text : String) : Respaced text (text ++ "/")
  | doubled (front back : String) : Respaced (front ++ "/" ++ back) (front ++ "/" ++ ("/" ++ back))
  | trans {text next other : String} (h : Respaced text next) (h' : Respaced next other) : Respaced text other

theorem pathSegments_leading (text : String) : pathSegments ("/" ++ text) = pathSegments text :=
  pathSegments_append "" text

/-- The segments do not depend on the slashes. -/
theorem Respaced.pathSegments_eq {text other : String} (h : Respaced text other) :
    pathSegments other = pathSegments text := by
  induction h with
  | refl => rfl
  | leading text => exact pathSegments_leading text
  | trailing text =>
    have behind := pathSegments_append text ""
    rw [String.append_empty] at behind
    exact behind.trans (List.append_nil _)
  | doubled front back => rw [pathSegments_append, pathSegments_append, pathSegments_leading]
  | trans _ _ ih ih' => exact ih'.trans ih

end Segments

section Braces

/-- A name in braces. -/
def inBraces (name : String) : String := "\x7b" ++ name ++ "\x7d"

theorem toList_inBraces (name : String) : (inBraces name).toList = '\x7b' :: (name.toList ++ ['\x7d']) := by
  simp [inBraces]

theorem inBraces_injective {name other : String} (h : inBraces name = inBraces other) : name = other := by
  have chars := congrArg String.toList h
  rw [toList_inBraces, toList_inBraces, List.cons.injEq, List.append_cancel_right_eq] at chars
  exact String.toList_injective chars.2

theorem inBraces_ne_star (name : String) : inBraces name ≠ "*" := by
  intro h
  have chars := congrArg String.toList h
  rw [toList_inBraces] at chars
  cases chars

namespace Segment

theorem captureName?_eq_some_iff {text : List Char} {name : String} :
    captureName? text = some name ↔ text = (inBraces name).toList := by
  rw [toList_inBraces]
  cases text with
  | nil => simp [captureName?]
  | cons c tail =>
    rw [captureName?, List.cons.injEq]
    constructor
    · intro h
      split at h
      · rename_i braces
        obtain ⟨inner, rfl⟩ := List.getLast?_eq_some_iff.1 braces.2
        obtain rfl := Option.some.inj h
        rw [List.dropLast_concat, String.toList_ofList]
        exact ⟨braces.1, rfl⟩
      · cases h
    · rintro ⟨rfl, rfl⟩
      simp

theorem ofString_star : ofString "*" = .remainder := if_pos rfl

theorem ofString_inBraces (name : String) : ofString (inBraces name) = .capture name := by
  rw [ofString, if_neg (inBraces_ne_star name), captureName?_eq_some_iff.2 rfl]

theorem ofString_of_plain {text : String} (star : text ≠ "*") (plain : ∀ name, text ≠ inBraces name) :
    ofString text = .literal text := by
  have none : captureName? text.toList = none :=
    Option.eq_none_iff_forall_ne_some.2 fun name named =>
      plain name (String.toList_injective (captureName?_eq_some_iff.1 named))
  rw [ofString, if_neg star, none]

end Segment

end Braces

namespace PathPattern

section Agreement

/-- A segment of a pattern agrees with a segment of a path. -/
def SegmentAgrees (text part : String) : Prop := (∃ name, text = inBraces name) ∨ text = part

/-- The segments of a pattern before the first `*`. -/
def front (texts : List String) : List String := texts.takeWhile (· ≠ "*")

/-- The first segments of a path agree one by one with the segments of a pattern before the first `*`; if there is none,
they are all segments of the path. -/
def Agree (texts parts : List String) : Prop :=
  ∃ leading rest, parts = leading ++ rest ∧ List.Forall₂ SegmentAgrees (front texts) leading ∧ ("*" ∉ texts → rest = [])

/-- The segment of a path where a pattern has a name for the last time before the first `*`. -/
def LastAt (texts parts : List String) (name part : String) : Prop :=
  ∃ i : Nat, (front texts)[i]? = some (inBraces name) ∧ parts[i]? = some part ∧
    ∀ j : Nat, i < j → (front texts)[j]? ≠ some (inBraces name)

variable {text part name value : String} {texts parts : List String}

theorem front_cons (h : text ≠ "*") : front (text :: texts) = text :: front texts := by
  simp [front, h]

theorem front_star : front ("*" :: texts) = [] := by
  simp [front]

theorem front_eq_self (h : "*" ∉ texts) : front texts = texts :=
  List.takeWhile_eq_self_iff.2 fun _ ht => decide_eq_true fun star => h (star ▸ ht)

theorem agree_nil : Agree [] parts ↔ parts = [] := by
  constructor
  · rintro ⟨leading, rest, rfl, each, whole⟩
    cases each
    exact whole List.not_mem_nil
  · rintro rfl
    exact ⟨[], [], rfl, .nil, fun _ => rfl⟩

theorem agree_star : Agree ("*" :: texts) parts := by
  refine ⟨[], parts, rfl, ?_, fun absent => absurd List.mem_cons_self absent⟩
  rw [front_star]
  exact .nil

theorem not_agree_nil (h : text ≠ "*") : ¬Agree (text :: texts) [] := by
  rintro ⟨leading, rest, none, each, -⟩
  obtain ⟨rfl, -⟩ := List.append_eq_nil_iff.1 none.symm
  rw [front_cons h] at each
  cases each

theorem agree_cons (h : text ≠ "*") :
    Agree (text :: texts) (part :: parts) ↔ SegmentAgrees text part ∧ Agree texts parts := by
  have star : "*" ∉ text :: texts ↔ "*" ∉ texts := by simp [h.symm]
  rw [Agree, front_cons h, star]
  constructor
  · rintro ⟨leading, rest, same, each, whole⟩
    cases each with
    | cons first others =>
      obtain ⟨rfl, rfl⟩ := List.cons.inj same
      exact ⟨first, _, rest, rfl, others, whole⟩
  · rintro ⟨first, leading, rest, rfl, others, whole⟩
    exact ⟨part :: leading, rest, rfl, .cons first others, whole⟩

theorem not_lastAt_nil : ¬LastAt [] parts name value := by
  rintro ⟨i, none, -⟩
  simp [front] at none

theorem not_lastAt_star : ¬LastAt ("*" :: texts) parts name value := by
  rintro ⟨i, none, -⟩
  simp [front] at none

/-- The last place is behind the first segment, or it is that of the first segment and there is no other one. -/
theorem lastAt_cons (h : text ≠ "*") : LastAt (text :: texts) (part :: parts) name value ↔
    LastAt texts parts name value ∨ (inBraces name ∉ front texts ∧ text = inBraces name ∧ part = value) := by
  rw [LastAt, front_cons h]
  constructor
  · rintro ⟨i, named, there, last⟩
    cases i with
    | zero =>
      refine .inr ⟨fun again => ?_, Option.some.inj named, Option.some.inj there⟩
      obtain ⟨j, hj⟩ := List.getElem?_of_mem again
      exact last (j + 1) (Nat.succ_pos j) hj
    | succ i => exact .inl ⟨i, named, there, fun j hj => last (j + 1) (Nat.succ_lt_succ hj)⟩
  · rintro (⟨i, named, there, last⟩ | ⟨only, rfl, rfl⟩)
    · refine ⟨i + 1, named, there, fun j hj => ?_⟩
      obtain ⟨j, rfl⟩ := Nat.exists_eq_succ_of_ne_zero (Nat.ne_zero_of_lt hj)
      exact last j (Nat.lt_of_succ_lt_succ hj)
    · refine ⟨0, rfl, rfl, fun j hj again => ?_⟩
      obtain ⟨j, rfl⟩ := Nat.exists_eq_succ_of_ne_zero (Nat.ne_zero_of_lt hj)
      exact only (List.mem_of_getElem? again)

/-- What is said of any segment of a pattern is said of a `*`, of names in braces and of other texts. -/
theorem segment_cases (text : String) :
    text = "*" ∨ (∃ name, text = inBraces name) ∨ (text ≠ "*" ∧ ∀ name, text ≠ inBraces name) := by
  by_cases star : text = "*"
  · exact .inl star
  · by_cases braces : ∃ name, text = inBraces name
    · exact .inr (.inl braces)
    · exact .inr (.inr ⟨star, not_exists.1 braces⟩)

/-- A path is accepted if and only if it agrees with the pattern. -/
theorem isSome_matchSegments_iff {captures : NameMap String} :
    (matchSegments (texts.map Segment.ofString) parts captures).isSome ↔ Agree texts parts := by
  induction texts generalizing parts captures with
  | nil => cases parts <;> simp [matchSegments, agree_nil]
  | cons text texts ih =>
    rw [List.map_cons]
    obtain rfl | ⟨name, rfl⟩ | ⟨star, plain⟩ := segment_cases text
    · rw [Segment.ofString_star]
      simpa [matchSegments] using agree_star
    · rw [Segment.ofString_inBraces]
      cases parts with
      | nil => simpa [matchSegments] using not_agree_nil (inBraces_ne_star name)
      | cons part parts =>
        have any : SegmentAgrees (inBraces name) part := .inl ⟨name, rfl⟩
        rw [matchSegments, ih, agree_cons (inBraces_ne_star name), and_iff_right any]
    · rw [Segment.ofString_of_plain star plain]
      cases parts with
      | nil => simpa [matchSegments] using not_agree_nil star
      | cons part parts =>
        have same : SegmentAgrees text part ↔ part = text := by simp [SegmentAgrees, plain, eq_comm]
        rw [matchSegments, agree_cons star, same]
        by_cases h : part = text
        · rw [if_pos h, ih, and_iff_right h]
        · simp [h]

/-- Captures are those of the last places; what was captured before stays under other names. -/
theorem get?_matchSegments {captures result : NameMap String}
    (h : matchSegments (texts.map Segment.ofString) parts captures = some result) (name value : String) :
    result.get? name = some value ↔
      LastAt texts parts name value ∨ (inBraces name ∉ front texts ∧ captures.get? name = some value) := by
  -- by induction over the pattern, for any captures so far: the rest of the pattern only adds to them
  induction texts generalizing parts captures with
  | nil =>
    cases parts with
    | nil =>
      obtain rfl := Option.some.inj h
      simp [not_lastAt_nil, front]
    | cons part parts => cases h
  | cons text texts ih =>
    rw [List.map_cons] at h
    obtain rfl | ⟨captured, rfl⟩ | ⟨star, plain⟩ := segment_cases text
    · rw [Segment.ofString_star] at h
      obtain rfl : captures = result := by cases parts <;> exact Option.some.inj h
      simp [not_lastAt_star, front]
    · rw [Segment.ofString_inBraces] at h
      cases parts with
      | nil => cases h
      | cons part parts =>
        rw [ih h, lastAt_cons (inBraces_ne_star captured), front_cons (inBraces_ne_star captured), NameMap.get?_insert]
        by_cases same : name = captured
        · subst same
          simp
        · have differs : inBraces name ≠ inBraces captured := fun e => same (inBraces_injective e)
          simp [same, differs, differs.symm]
    · rw [Segment.ofString_of_plain star plain] at h
      cases parts with
      | nil => cases h
      | cons part parts =>
        rw [matchSegments] at h
        split at h
        · rw [ih h, lastAt_cons star, front_cons star]
          simp [plain name, (plain name).symm]
        · cases h

theorem isSome_match?_iff {pattern path : String} :
    ((ofString pattern).match? path).isSome ↔ Agree (pathSegments pattern) (pathSegments path) :=
  isSome_matchSegments_iff

theorem get?_match? {pattern path : String} {captures : NameMap String}
    (h : (ofString pattern).match? path = some captures) (name value : String) :
    captures.get? name = some value ↔ LastAt (pathSegments pattern) (pathSegments path) name value := by
  rw [get?_matchSegments h, NameMap.get?_empty]
  simp

/-- Every name before the first `*` captures. -/
theorem exists_lastAt (agree : Agree texts parts) (h : inBraces name ∈ front texts) :
    ∃ part, LastAt texts parts name part := by
  induction texts generalizing parts with
  | nil => cases h
  | cons text texts ih =>
    by_cases star : text = "*"
    · subst star
      rw [front_star] at h
      cases h
    · cases parts with
      | nil => exact absurd agree (not_agree_nil star)
      | cons part parts =>
        rw [front_cons star] at h
        by_cases again : inBraces name ∈ front texts
        · obtain ⟨value, last⟩ := ih ((agree_cons star).1 agree).2 again
          exact ⟨value, (lastAt_cons star).2 (.inl last)⟩
        · have here : inBraces name = text := (List.mem_cons.1 h).resolve_right again
          exact ⟨part, (lastAt_cons star).2 (.inr ⟨again, here.symm, rfl⟩)⟩

end Agreement

section Filling

variable {values : String → String} {pattern : String}

/-- What stands in the place of a piece of a pattern. -/
def fillPiece (values : String → String) (piece : List Char) : List Char :=
  match Segment.captureName? piece with
  | some name => (values name).toList
  | none => piece

/-- A pattern with values in the place of its names in braces. -/
def fill (values : String → String) (pattern : String) : String :=
  String.ofList (['/'].intercalate ((pieces (· = '/') pattern.toList).map (fillPiece values)))

/-- Values for the names of a pattern that can be segments of a path. -/
def Fills (values : String → String) (pattern : String) : Prop :=
  ∀ name, inBraces name ∈ pathSegments pattern → values name ≠ "" ∧ '/' ∉ (values name).toList

theorem fillPiece_inBraces (name : String) : fillPiece values (inBraces name).toList = (values name).toList := by
  rw [fillPiece, Segment.captureName?_eq_some_iff.2 rfl]

/-- A piece is a name in braces, or it stays. -/
theorem fillPiece_cases (values : String → String) (piece : List Char) :
    (∃ name, piece = (inBraces name).toList) ∨ fillPiece values piece = piece := by
  rw [fillPiece]
  cases named : Segment.captureName? piece with
  | some name => exact .inl ⟨name, Segment.captureName?_eq_some_iff.1 named⟩
  | none => exact .inr rfl

theorem inBraces_mem_pathSegments {name : String} (h : (inBraces name).toList ∈ pieces (· = '/') pattern.toList) :
    inBraces name ∈ pathSegments pattern := by
  refine List.mem_map.2 ⟨_, List.mem_filter.2 ⟨h, ?_⟩, String.ofList_toList⟩
  rw [toList_inBraces]
  rfl

/-- The segments of the filled pattern are those of the pattern, filled one by one. -/
theorem pathSegments_fill (fills : Fills values pattern) : pathSegments (fill values pattern) =
    (pathSegments pattern).map fun text => String.ofList (fillPiece values text.toList) := by
  have free : ∀ part ∈ (pieces (· = '/') pattern.toList).map (fillPiece values), '/' ∉ part := by
    intro part mem
    obtain ⟨piece, hp, rfl⟩ := List.mem_map.1 mem
    obtain ⟨name, rfl⟩ | stays := fillPiece_cases values piece
    · rw [fillPiece_inBraces]
      exact (fills name (inBraces_mem_pathSegments hp)).2
    · rw [stays]
      exact fun slash => by simpa using (mem_of_mem_pieces hp slash).2
  have filled : ∀ piece ∈ pieces (· = '/') pattern.toList,
      decide (fillPiece values piece ≠ []) = decide (piece ≠ []) := by
    intro piece hp
    obtain ⟨name, rfl⟩ | stays := fillPiece_cases values piece
    · have some : (values name).toList ≠ [] := by simpa using (fills name (inBraces_mem_pathSegments hp)).1
      rw [fillPiece_inBraces, decide_eq_true some, toList_inBraces]
      rfl
    · rw [stays]
  have cut : pieces (· = '/') (fill values pattern).toList =
      (pieces (· = '/') pattern.toList).map (fillPiece values) := by
    rw [fill, String.toList_ofList]
    exact pieces_eq_iff.2 ⟨by simp [pieces_ne_nil], rfl, free⟩
  rw [pathSegments, cut, List.filter_map, pathSegments, List.map_map, List.map_map]
  refine (congrArg _ (List.filter_congr filled)).trans (List.map_congr_left fun piece _ => ?_)
  simp

/-- **A filled pattern matches, with the values as captures.** -/
theorem exists_match?_fill (star : "*" ∉ pathSegments pattern) (fills : Fills values pattern) :
    ∃ captures, (ofString pattern).match? (fill values pattern) = some captures ∧
      ∀ name, captures.get? name = if inBraces name ∈ pathSegments pattern then some (values name) else none := by
  have whole : front (pathSegments pattern) = pathSegments pattern := front_eq_self star
  have agree : Agree (pathSegments pattern) (pathSegments (fill values pattern)) := by
    refine ⟨_, [], (List.append_nil _).symm, ?_, fun _ => rfl⟩
    rw [whole, pathSegments_fill fills, List.forall₂_map_right_iff, List.forall₂_same]
    intro text _
    obtain ⟨name, braces⟩ | stays := fillPiece_cases values text.toList
    · exact .inl ⟨name, String.toList_injective braces⟩
    · rw [stays, String.ofList_toList]
      exact .inr rfl
  obtain ⟨captures, matched⟩ := Option.isSome_iff_exists.1 (isSome_match?_iff.2 agree)
  refine ⟨captures, matched, fun name => ?_⟩
  split
  · rename_i named
    obtain ⟨part, last⟩ := exists_lastAt agree (whole.symm ▸ named)
    rw [(get?_match? matched name part).2 last]
    obtain ⟨i, there, value, -⟩ := last
    rw [pathSegments_fill fills, List.getElem?_map, ← whole, there, Option.map_some, fillPiece_inBraces,
      String.ofList_toList] at value
    exact value.symm
  · rename_i absent
    refine Option.eq_none_iff_forall_ne_some.2 fun value captured => ?_
    obtain ⟨i, there, -⟩ := (get?_match? matched name value).1 captured
    rw [whole] at there
    exact absent (List.mem_of_getElem? there)

end Filling

/-- **What a pattern matches.** A path matches if and only if its segments agree with those of the pattern up to the
first `*`. Each name captures the segment at its last place before that, which is never empty and has no slash, and
nothing else is captured. Slashes at the ends and next to other slashes do not matter. A pattern without `*` matches the
path that is made of it with segments in the place of its names, and captures them. -/
theorem match?_ofString (pattern path : String) :
    (((ofString pattern).match? path).isSome ↔ Agree (pathSegments pattern) (pathSegments path)) ∧
    (∀ captures, (ofString pattern).match? path = some captures → ∀ name value,
      (captures.get? name = some value ↔ LastAt (pathSegments pattern) (pathSegments path) name value) ∧
      (captures.get? name = some value → value ≠ "" ∧ '/' ∉ value.toList)) ∧
    (∀ pattern' path', Respaced pattern pattern' → Respaced path path' →
      (ofString pattern').match? path' = (ofString pattern).match? path) ∧
    ∀ values, "*" ∉ pathSegments pattern → Fills values pattern →
      ∃ captures, (ofString pattern).match? (fill values pattern) = some captures ∧
        ∀ name, captures.get? name = if inBraces name ∈ pathSegments pattern then some (values name) else none := by
  refine ⟨isSome_match?_iff, fun captures matched name value => ⟨get?_match? matched name value, fun captured => ?_⟩,
    fun pattern' path' respaced respaced' => ?_, fun values star fills => exists_match?_fill star fills⟩
  · obtain ⟨i, -, there, -⟩ := (get?_match? matched name value).1 captured
    obtain ⟨filled, slash, -⟩ := mem_pathSegments (List.mem_of_getElem? there)
    exact ⟨filled, slash⟩
  · simp only [match?, ofString, respaced.pathSegments_eq, respaced'.pathSegments_eq]

/-- A name stands twice before a `*` and another one behind it; the path gets a slash more at its end. A pattern with two
slashes in a row keeps them when it is filled. -/
theorem match?_ofString_starred :
    let pattern := "/a/{x}/{x}/*/{y}"
    (∃ captures, (ofString pattern).match? ("a/1/2/b" ++ "/") = some captures ∧ captures.get? "x" = some "2") ∧
    fill (fun _ => "1") "b//{x}" = "b//1" ∧
    ∃ captures, (ofString "b//{x}").match? "b//1" = some captures ∧ captures.get? "x" = some "1" := by
  intro pattern
  have matched : (ofString pattern).match? "a/1/2/b" = some (.ofList [("x", "2")]) := by decide +kernel
  have value : "1" ≠ "" ∧ '/' ∉ "1".toList := by decide +kernel
  have filled : fill (fun _ => "1") "b//{x}" = "b//1" := by decide +kernel
  obtain ⟨-, captured, respaced, -⟩ := match?_ofString pattern "a/1/2/b"
  have capture := (captured _ matched "x" "2").1.2 ⟨2, by decide +kernel, by decide +kernel, ?_⟩
  · obtain ⟨-, -, -, fills⟩ := match?_ofString "b//{x}" ""
    obtain ⟨captures, matched', values⟩ := fills (fun _ => "1") (by decide +kernel) fun _ _ => value
    refine ⟨⟨_, (respaced _ _ (.refl _) (.trailing _)).trans matched, capture⟩, filled, captures,
      filled ▸ matched', (values "x").trans (if_pos (by decide +kernel))⟩
  · intro j hj
    have short : (front (pathSegments pattern)).length = 3 := by decide +kernel
    rw [List.getElem?_eq_none (short ▸ hj)]
    simp

end PathPattern

end Http

end MockCluster
