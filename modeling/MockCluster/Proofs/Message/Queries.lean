import Mathlib.Data.List.TakeWhile
import MockCluster.Http.Message
import MockCluster.Proofs.Text.Parts

/-!
# Targets and queries

A target is cut into a path and a query, a query into pairs, and a pair into a name and a value. Three characters do
this, and each of them means something at one place only:

| what is cut | where | what may have the character all the same |
| --- | --- | --- |
| a target | at the first question mark | the query |
| a query | at every ampersand | nothing |
| a pair | at its first equals sign | the value |

Nothing is decoded, so what stands in a query is what is read from it. If there is no such character where it would cut
something else, then a target can be taken apart again, and every name has the value of the first pair with this name
(`param?_create`).
-/

namespace MockCluster.Http

section Cutting

variable {c : Char} {text front : List Char}

theorem cutAt_of_not_mem (h : c ∉ text) : cutAt c text = (text, none) := by
  have exhausted : text.dropWhile (· ≠ c) = [] :=
    List.dropWhile_eq_nil_iff.2 fun a ha => decide_eq_true fun he => h (he ▸ ha)
  rw [cutAt, exhausted]

theorem cutAt_append_cons (h : c ∉ front) (back : List Char) : cutAt c (front ++ c :: back) = (front, some back) := by
  have kept : ∀ a ∈ front, decide (a ≠ c) = true := fun a ha => decide_eq_true fun he => h (he ▸ ha)
  rw [cutAt, List.dropWhile_append_of_pos kept, List.takeWhile_append_of_pos kept]
  simp

theorem fst_cutAt (c : Char) (text : List Char) : (cutAt c text).1 = text.takeWhile (· ≠ c) := by
  have whole : text.takeWhile (· ≠ c) ++ text.dropWhile (· ≠ c) = text := List.takeWhile_append_dropWhile
  unfold cutAt
  split
  · rename_i none
    rw [none, List.append_nil] at whole
    exact whole.symm
  · rfl

end Cutting

/-- A pair of a query. -/
structure Parameter where
  name : String
  /-- What stands after the equals sign; a bare name has none. -/
  value : Option String
  deriving DecidableEq, Repr

namespace Parameter

/-- A pair as it stands in a query. -/
def text (p : Parameter) : String :=
  match p.value with
  | none => p.name
  | some value => p.name ++ "=" ++ value

/-- What a pair gives for its name. A bare name has the empty value. -/
def given (p : Parameter) : String := p.value.getD ""

/-- A pair that is cut nowhere but where its name ends. -/
structure Whole (p : Parameter) : Prop where
  name_equals : '=' ∉ p.name.toList
  name_ampersand : '&' ∉ p.name.toList
  value_ampersand : ∀ value ∈ p.value, '&' ∉ value.toList

/-- Pairs as a query. -/
def joined (ps : List Parameter) : String := "&".intercalate (ps.map text)

variable {p : Parameter} {ps : List Parameter}

theorem Whole.ampersand_not_mem_text (h : p.Whole) : '&' ∉ p.text.toList := by
  obtain ⟨name, value⟩ := p
  cases value with
  | none => exact h.name_ampersand
  | some value =>
    have name_free := h.name_ampersand
    have value_free := h.value_ampersand value rfl
    simp_all [text]

/-- A pair is cut where its name ends. -/
theorem Whole.cutAt_text (h : p.Whole) : cutAt '=' p.text.toList = (p.name.toList, p.value.map String.toList) := by
  obtain ⟨name, value⟩ := p
  cases value with
  | none => exact cutAt_of_not_mem h.name_equals
  | some value =>
    have chars : (name ++ "=" ++ value).toList = name.toList ++ '=' :: value.toList := by simp
    rw [text, chars]
    exact cutAt_append_cons h.name_equals value.toList

/-- A query is cut where its pairs end. -/
theorem pieces_joined (ne : ps ≠ []) (whole : ∀ p ∈ ps, p.Whole) :
    pieces (· = '&') (joined ps).toList = ps.map (·.text.toList) := by
  have chars : (joined ps).toList = ['&'].intercalate (ps.map (·.text.toList)) := by
    simp [joined, String.toList_intercalate, Function.comp_def]
  refine pieces_eq_iff.2 ⟨by simpa using ne, chars.symm, fun part hpart => ?_⟩
  obtain ⟨p, hp, rfl⟩ := List.mem_map.1 hpart
  exact (whole p hp).ampersand_not_mem_text

end Parameter

namespace Request

open Parameter (joined)

/-- A target without a question mark is the path. -/
theorem path_create {target : String} (question : '?' ∉ target.toList) (method : String) :
    (create method target).path = target := by
  simp only [create, cutAt_of_not_mem question, String.ofList_toList]

/-- With a question mark it is a path and a query. -/
theorem create_question {path : String} (question : '?' ∉ path.toList) (method rest : String) :
    create method (path ++ "?" ++ rest) = { create method path with query := some rest } := by
  have split : (path ++ "?" ++ rest).toList = path.toList ++ '?' :: rest.toList := by simp
  simp only [create, split, cutAt_append_cons question, cutAt_of_not_mem question, Option.map_some,
    String.ofList_toList]

variable {r : Request} {ps : List Parameter}

/-- The first pair of a name counts. -/
theorem param?_of_query (query : r.query = some (joined ps)) (ne : ps ≠ []) (whole : ∀ p ∈ ps, p.Whole)
    (name : String) : r.param? name = (ps.find? (·.name = name)).map (·.given) := by
  have pairs : (pieces (· = '&') (joined ps).toList).map (cutAt '=') =
      ps.map fun p => (p.name.toList, p.value.map String.toList) := by
    rw [Parameter.pieces_joined ne whole, List.map_map]
    exact List.map_congr_left fun p hp => (whole p hp).cutAt_text
  simp only [param?, query, Option.bind_eq_bind, Option.bind_some, pairs]
  simp only [List.find?_map, Function.comp_def, String.ofList_toList]
  cases ps.find? (·.name = name) with
  | none => rfl
  | some p => cases hv : p.value <;> simp [Parameter.given, hv]

/-- **A target can be taken apart again.** Let it be put together from a path without a question mark and some pairs, in
the way in which they are read, and let no pair have a separator in a wrong place. Then the request has the path, and
for a name it has the value of the first pair with this name, which is empty if that is a bare name. Other names have
none. -/
theorem param?_create {path : String} (question : '?' ∉ path.toList) (ne : ps ≠ []) (whole : ∀ p ∈ ps, p.Whole)
    (method : String) :
    let r := create method (path ++ "?" ++ joined ps)
    r.path = path ∧ ∀ name,
      r.param? name = (ps.find? (·.name = name)).map (·.given) ∧
      (r.param? name = none ↔ ∀ p ∈ ps, p.name ≠ name) := by
  intro r
  have split : r = _ := create_question question method (joined ps)
  refine ⟨?_, fun name => ?_⟩
  · rw [split]
    exact path_create question method
  · have read := param?_of_query (congrArg query split) ne whole name
    refine ⟨read, ?_⟩
    rw [read, Option.map_eq_none_iff, List.find?_eq_none]
    simp only [decide_eq_true_eq]

/-- Separators where they mean nothing, an empty name, and a name that stands in two pairs, the first time alone. -/
theorem param?_create_repeated :
    let ps : List Parameter := [⟨"", some "b=?"⟩, ⟨"a", none⟩, ⟨"a", some "1"⟩]
    let r := create "GET" ("/a&b=c" ++ "?" ++ joined ps)
    r.path = "/a&b=c" ∧ r.param? "" = some "b=?" ∧ r.param? "a" = some "" ∧ r.param? "b" = none := by
  intro ps r
  have whole : ∀ p ∈ ps, p.Whole := by
    intro p hp
    simp only [ps, List.mem_cons, List.not_mem_nil, or_false] at hp
    obtain rfl | rfl | rfl := hp <;> constructor <;> simp
  have question : '?' ∉ "/a&b=c".toList := by decide +kernel
  obtain ⟨path, read⟩ := param?_create question (List.cons_ne_nil _ _) whole "GET"
  refine ⟨path, ?_, ?_, (read "b").2.2 (by decide)⟩
  · rw [(read "").1]
    rfl
  · rw [(read "a").1]
    rfl

end Request

end MockCluster.Http
