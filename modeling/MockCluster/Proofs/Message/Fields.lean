import MockCluster.Http.Message
import MockCluster.Proofs.Text.Utf8Text

/-!
# The fields of a message

Fields are added to a message one after another, and looked up by their names in any case. A name may be added more than
once. What comes of a field depends on its name and its value alone:

| name | value | what comes of it | all values of the name | first value of the name |
| --- | --- | --- | --- | --- |
| not valid | any | nothing | | |
| valid | not valid | nothing | | |
| valid | valid, with a byte above 0x7e | it is stored | left out | none, if it was stored first |
| valid | all others | it is stored | listed | this, if it was stored first |

So a value that cannot be read does not hide the others in the list, but it does hide them from the look-up of the first
one. All that is needed of the map is what it has for a name after one field was added (`values_addText`).
-/

namespace MockCluster.Http

namespace Headers

variable {h : Headers} {name value k : String}

/-- A field that is stored. -/
def isField (name value : String) : Bool := isName name && isValue (Utf8.encode value)

/-- Names that are the same but for the case of their letters. -/
def sameName (name other : String) : Bool := name.toLower = other.toLower

/-- No byte of a text is above 0x7e. -/
def isReadable (value : String) : Bool := (Utf8.encode value).all (· ≤ 0x7e)

/-- Adds one field after another. -/
def addAll (h : Headers) (fields : List (String × String)) : Headers :=
  fields.foldl (fun h field => h.addText field.1 field.2) h

/-- The values that are stored for a name when fields are added, in the order in which they are added. -/
def stored (fields : List (String × String)) (k : String) : List String :=
  (fields.filter fun field => isField field.1 field.2 && sameName field.1 k).map (·.2)

theorem sameName_iff {name other : String} :
    sameName name other = true ↔ name.toList.map Char.toLower = other.toList.map Char.toLower := by
  have lower (s : String) : s.toLower.toList = s.toList.map Char.toLower := String.toList_map
  rw [sameName, decide_eq_true_iff, ← String.toList_inj, lower, lower]

theorem values_empty (k : String) : empty.values k = [] := rfl

/-- What is not valid is not stored. -/
theorem addText_of_invalid (invalid : isField name value = false) : h.addText name value = h := by
  simp_all [addText, add, isField]

/-- A value is stored behind those that the name has in any case, and no other name has it. -/
theorem values_addText (h : Headers) (name value k : String) :
    (h.addText name value).values k =
      h.values k ++ if isField name value && sameName name k then [Utf8.encode value] else [] := by
  cases valid : isField name value with
  | false => simp [addText_of_invalid valid]
  | true =>
    have same : sameName name k = true ↔ k.toLower = name.toLower := by simp [sameName, eq_comm]
    simp only [isField] at valid
    simp only [addText, add, valid, if_true, values, NameMap.get?_insert, Bool.true_and, same]
    split
    · rename_i equal
      rw [equal]
      rfl
    · simp

theorem stored_cons (name value : String) (fields : List (String × String)) (k : String) :
    stored ((name, value) :: fields) k =
      (if isField name value && sameName name k then [value] else []) ++ stored fields k := by
  rw [stored, List.filter_cons]
  split <;> rfl

/-- The values of a name are those that were stored for it, whatever was added in between. -/
theorem values_addAll (h : Headers) (fields : List (String × String)) (k : String) :
    (h.addAll fields).values k = h.values k ++ (stored fields k).map Utf8.encode := by
  induction fields generalizing h with
  | nil => simp [addAll, stored]
  | cons field rest ih =>
    obtain ⟨name, value⟩ := field
    rw [addAll, List.foldl_cons, ← addAll, ih, values_addText, stored_cons, List.append_assoc]
    split <;> simp

/-- A value is read as the text that it was made of, if it can be read. -/
theorem text?_encode (value : String) : text? (Utf8.encode value) = Option.guard isReadable value := by
  rw [text?, Utf8.decodeLossy_encode]
  rfl

/-- What look-ups find when fields were added one after another. -/
structure Finds (h : Headers) (fields : List (String × String)) : Prop where
  /-- All values that are stored for a name and can be read. -/
  getAll_eq : ∀ k, h.getAll k = (stored fields k).filter isReadable
  /-- The value that is stored first, but nothing if this one cannot be read. -/
  get?_eq : ∀ k, h.get? k = (stored fields k).head?.filter isReadable

theorem finds_addAll (fields : List (String × String)) : (empty.addAll fields).Finds fields where
  getAll_eq k := by
    have read : text? ∘ Utf8.encode = Option.guard isReadable := funext text?_encode
    rw [getAll, values_addAll, values_empty, List.nil_append, List.filterMap_map, read, List.filterMap_eq_filter]
  get?_eq k := by
    rw [get?, values_addAll, values_empty, List.nil_append, List.head?_map]
    cases (stored fields k).head? with
    | none => rfl
    | some value => exact text?_encode value

end Headers

open Headers (isField isReadable sameName sameName_iff stored stored_cons)

/-- Adds one field after another. -/
def Request.withHeaders (r : Request) (fields : List (String × String)) : Request :=
  fields.foldl (fun r field => r.withHeader field.1 field.2) r

/-- Adds one field after another. -/
def Response.withHeaders (r : Response) (fields : List (String × String)) : Response :=
  fields.foldl (fun r field => r.withHeader field.1 field.2) r

theorem Request.headers_withHeaders (r : Request) (fields : List (String × String)) :
    (r.withHeaders fields).headers = r.headers.addAll fields := by
  induction fields generalizing r with
  | nil => rfl
  | cons field rest ih => exact ih (r.withHeader field.1 field.2)

theorem Response.headers_withHeaders (r : Response) (fields : List (String × String)) :
    (r.withHeaders fields).headers = r.headers.addAll fields := by
  induction fields generalizing r with
  | nil => rfl
  | cons field rest ih => exact ih (r.withHeader field.1 field.2)

/-- **What is found of the fields of a message.** Fields with any names and any values are added to a new request or to
a new response. Whatever name is looked up then, in any case, the list has the values of this name that are valid and
can be read, in the order in which they were added, and the single look-up has the first valid one if it can be read. A
field that is not valid leaves any message as it is. -/
theorem finds_withHeaders (fields : List (String × String)) :
    (∀ method target, ((Request.create method target).withHeaders fields).headers.Finds fields) ∧
    (∀ status, ((Response.create status).withHeaders fields).headers.Finds fields) ∧
    ∀ name value, isField name value = false →
      (∀ r : Request, r.withHeader name value = r) ∧ ∀ r : Response, r.withHeader name value = r := by
  refine ⟨fun method target => ?_, fun status => ?_, fun name value invalid => ⟨fun r => ?_, fun r => ?_⟩⟩
  · rw [Request.headers_withHeaders]
    exact Headers.finds_addAll fields
  · rw [Response.headers_withHeaders]
    exact Headers.finds_addAll fields
  · rw [Request.withHeader, Headers.addText_of_invalid invalid]
  · rw [Response.withHeader, Headers.addText_of_invalid invalid]

/-- A name in two cases, first with a value that cannot be read, then with one that is not valid, then, behind a field
with another name, with a good one. The value that cannot be read hides the others from the single look-up. -/
theorem finds_withHeaders_unreadable :
    let r := (Response.create 200).withHeaders [("A", "é"), ("a", "\n"), ("B", "y"), ("A", "x")]
    r.headers.getAll "a" = ["x"] ∧ r.headers.get? "a" = none ∧
      isField "a" "\n" = false ∧ r.withHeader "a" "\n" = r := by
  intro r
  obtain ⟨-, responses, invalid⟩ := finds_withHeaders [("A", "é"), ("a", "\n"), ("B", "y"), ("A", "x")]
  have found : r.headers.Finds _ := responses 200
  have broken : isField "a" "\n" = false := by decide
  have listed : stored [("A", "é"), ("a", "\n"), ("B", "y"), ("A", "x")] "a" = ["é", "x"] := by
    have first : isField "A" "é" = true := by decide
    have last : isField "A" "x" = true := by decide
    have same : sameName "A" "a" = true := sameName_iff.2 (by decide)
    have other : sameName "B" "a" = false := Bool.eq_false_iff.2 (mt sameName_iff.1 (by decide))
    simp only [stored_cons, first, broken, other, last, same, Bool.false_and, Bool.and_false, Bool.and_true]
    rfl
  have unreadable : isReadable "é" = false := by decide
  have readable : isReadable "x" = true := by decide
  refine ⟨?_, ?_, broken, (invalid "a" "\n" broken).2 r⟩
  · simp [found.getAll_eq, listed, unreadable, readable]
  · simp [found.get?_eq, listed, unreadable]

end MockCluster.Http
