import MockCluster.NameMap
import MockCluster.Text.Pieces

/-!
# Path patterns

A pattern is compared with a path segment by segment; empty segments of both are dropped. A name in braces
agrees with any segment and captures it, a segment `*` agrees with everything that is left, and any other
segment agrees with itself.
-/

namespace MockCluster.Http

/-- A segment of a pattern. -/
inductive Segment where
  /-- Agrees with itself. -/
  | literal (text : String)
  /-- Agrees with any segment and captures it. -/
  | capture (name : String)
  /-- Agrees with all that is left. -/
  | remainder
  deriving DecidableEq, Repr

/-- A pattern for paths. -/
structure PathPattern where
  segments : List Segment
  deriving DecidableEq, Repr, Inhabited

/-- The segments of a path that are not empty. -/
def pathSegments (path : String) : List String :=
  ((pieces (· = '/') path.toList).filter (· ≠ [])).map String.ofList

/-- The name in a text that is a name in braces. -/
def Segment.captureName? : List Char → Option String
  | [] => none
  | c :: tail =>
    if c = '\x7b' ∧ tail.getLast? = some '\x7d' then some (String.ofList tail.dropLast) else none

/-- The segment that a text stands for. -/
def Segment.ofString (text : String) : Segment :=
  if text = "*" then .remainder
  else match captureName? text.toList with
    | some name => .capture name
    | none => .literal text

namespace PathPattern

/-- The pattern that a text stands for. -/
def ofString (text : String) : PathPattern := ⟨(pathSegments text).map Segment.ofString⟩

/-- Compares segments and adds to the captures. A later capture of the same name replaces an earlier one. -/
def matchSegments : List Segment → List String → NameMap String → Option (NameMap String)
  | [], [], captures => some captures
  | [], _ :: _, _ => none
  | .remainder :: _, _, captures => some captures
  | .literal _ :: _, [], _ => none
  | .literal text :: segments, part :: parts, captures =>
    if part = text then matchSegments segments parts captures else none
  | .capture _ :: _, [], _ => none
  | .capture name :: segments, part :: parts, captures =>
    matchSegments segments parts (captures.insert name part)

/-- The captures, if the path agrees with the pattern. -/
def match? (pattern : PathPattern) (path : String) : Option (NameMap String) :=
  matchSegments pattern.segments (pathSegments path) .empty

end PathPattern

end MockCluster.Http
