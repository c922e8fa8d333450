import MockCluster.Toml.Scalar
import MockCluster.Toml.Section

/-!
# TOML documents

Reading a whole document. It is a sequence of lines, each with a comment, a header or a definition; values may extend
over several lines inside brackets and long strings. Arrays and inline tables nest less than 80 deep, and a dotted key
has fewer than 80 parts.
-/

namespace MockCluster.Toml

/-- The depth that nesting must not reach. -/
def depthLimit : Nat := 80

/-- What follows a comment that begins with its number sign, up to the end of the line. -/
def skipComment : List Char → List Char
  | '#' :: text => text.dropWhile isPlain
  | text => text

/-- The text after blanks and a comment, which must be at the end of a line or of the document. -/
def endOfLine? (text : List Char) : Option (List Char) :=
  match skipComment (skipBlanks text) with
  | [] => some []
  | text => lineEnd? text

/-! ## Keys -/

/-- A character of a bare key. -/
def isBareKeyChar (c : Char) : Bool := c.isAlphanum || c = '_' || c = '-'

/-- One part of a key. -/
def readKeyPart : Reader String := fun text =>
  match text with
  | '"' :: text => basicString (text.length + 1) [] text
  | '\'' :: text => literalString text
  | text =>
    let part := text.takeWhile isBareKeyChar
    if part.isEmpty then none else some (String.ofList part, text.drop part.length)

/-- The parts of a key, with dots and blanks between them. -/
def readKeyParts : (fuel : Nat) → Reader (List String)
  | 0, _ => none
  | fuel + 1, text =>
    match readKeyPart (skipBlanks text) with
    | none => none
    | some (part, text) =>
      match skipBlanks text with
      | '.' :: text => (readKeyParts fuel text).map fun (parts, text) => (part :: parts, text)
      | text => some ([part], text)

/-- A key as its path and its last part. -/
def readKey : Reader (List String × String) := fun text =>
  match readKeyParts (depthLimit - 1) text with
  | none => none
  | some (parts, text) => parts.getLast?.map fun last => ((parts.dropLast, last), text)

/-! ## Values -/

/-- The text after blanks, line ends and comments. A comment ends with its line. -/
def skipLines? : (fuel : Nat) → List Char → Option (List Char)
  | 0, _ => none
  | fuel + 1, text =>
    match skipBlanks text with
    | '#' :: text =>
      match lineEnd? (text.dropWhile isPlain) with
      | some text => skipLines? fuel text
      | none => none
    | text =>
      match lineEnd? text with
      | some text => skipLines? fuel text
      | none => if text.head? = some '\r' then none else some text

/-- The elements of an array after its opening bracket, and the closing bracket. A comma may follow the last one. -/
def readItems (value : Reader Toml) : (fuel : Nat) → List Toml → Reader (List Toml)
  | 0, _, _ => none
  | fuel + 1, done, text => do
    let text ← skipLines? (text.length + 1) text
    match text with
    | ']' :: text => some (done.reverse, text)
    | text =>
      let (v, text) ← value text
      let text ← skipLines? (text.length + 1) text
      match text with
      | ',' :: text => readItems value fuel (v :: done) text
      | ']' :: text => some ((v :: done).reverse, text)
      | _ => none

/-- The definitions of an inline table after its opening brace, and the closing brace. -/
def readPairs (value : Reader Toml) : (fuel : Nat) → Section → Reader Section
  | 0, _, _ => none
  | fuel + 1, s, text => do
    let ((path, key), text) ← readKey text
    let text ← expect ['='] text
    let (v, text) ← value (skipBlanks text)
    let s ← s.define path key v
    match skipBlanks text with
    | ',' :: text => readPairs value fuel s text
    | '\x7d' :: text => some (s, text)
    | _ => none

/-- An inline table after its opening brace. -/
def readInlineTable (value : Reader Toml) : Reader Toml := fun text =>
  match skipBlanks text with
  | '\x7d' :: text => some (.table [], text)
  | text =>
    (readPairs value (text.length + 1) .empty text).map fun (s, text) => (s.node.finish, text)

/-- A value in which at most `depth` brackets and braces are open at once. -/
def readValue : (depth : Nat) → Reader Toml
  | depth, text =>
    match depth, text with
    | _, '"' :: _ | _, '\'' :: _ => (readString text).map fun (s, text) => (.string s, text)
    | 0, '[' :: _ => none
    | depth + 1, '[' :: rest =>
      (readItems (readValue depth) (rest.length + 1) [] rest).map fun (items, text) => (.array items, text)
    | 0, c :: rest => if c = '\x7b' then none else readWord (c :: rest)
    | depth + 1, c :: rest =>
      if c = '\x7b' then readInlineTable (readValue depth) rest else readWord (c :: rest)
    | _, [] => none

/-! ## Lines -/

/-- A line of a document. -/
inductive Line where
  /-- Nothing but blanks and a comment. -/
  | blank
  /-- A header of a table. -/
  | header (path : List String) (key : String)
  /-- A header of a table in an array. -/
  | arrayHeader (path : List String) (key : String)
  /-- A definition. -/
  | definition (path : List String) (key : String) (v : Toml)
  deriving Inhabited

/-- A line, which begins without blanks. -/
def readLine : Reader Line := fun text =>
  match text with
  | '[' :: '[' :: text => do
    let ((path, key), text) ← readKey text
    return (.arrayHeader path key, ← endOfLine? (← expect [']', ']'] text))
  | '[' :: text => do
    let ((path, key), text) ← readKey text
    return (.header path key, ← endOfLine? (← expect [']'] text))
  | '#' :: _ | '\n' :: _ | '\r' :: _ | [] => (endOfLine? text).map (.blank, ·)
  | text => do
    let ((path, key), text) ← readKey text
    let text ← expect ['='] text
    let (v, text) ← readValue (depthLimit - 1) (skipBlanks text)
    return (.definition path key v, ← endOfLine? text)

/-- The lines of a document. -/
def readLines : (fuel : Nat) → List Char → Option (List Line)
  | 0, _ => none
  | fuel + 1, text =>
    match skipBlanks text with
    | [] => some []
    | text =>
      match readLine text with
      | none => none
      | some (line, text) => (readLines fuel text).map (line :: ·)

/-! ## Tables -/

/-- Where the open table belongs. -/
inductive Place where
  /-- It is the document itself. -/
  | root
  /-- It is a table. -/
  | table (path : List String) (key : String)
  /-- It is the last table of an array. -/
  | lastOf (path : List String) (key : String)
  deriving Inhabited

/-- A document under construction: what is closed, and the open table with its place. -/
structure Builder where
  closed : Section
  place : Place
  current : Section
  deriving Inhabited

namespace Builder

/-- Nothing read yet. -/
def start : Builder := ⟨.empty, .root, .empty⟩

/-- Puts the open table into its place. -/
def finish (b : Builder) : Option Section :=
  match b.place with
  | .root => some b.current
  | .table path key => b.closed.close path key b.current
  | .lastOf path key => b.closed.append path key b.current

/-- Takes in a line. -/
def add (b : Builder) : Line → Option Builder
  | .blank => some b
  | .definition path key v => (b.current.define path key v).map ({ b with current := · })
  | .header path key => do
    let closed ← b.finish
    return ⟨closed, .table path key, ← closed.opened path key⟩
  | .arrayHeader path key => do
    return ⟨← b.finish, .lastOf path key, .empty⟩

end Builder

/-- The fields that lines define. -/
def ofLines? (lines : List Line) : Option (List (String × Toml)) := do
  let b ← lines.foldlM Builder.add .start
  return finishItems (← b.finish).items

/-- The fields that a document defines; none if it is no document. A mark of byte order at its beginning is passed
over. -/
def parse? (text : String) : Option (List (String × Toml)) :=
  let text := match text.toList with
    | '\uFEFF' :: rest => rest
    | chars => chars
  (readLines (text.length + 1) text).bind ofLines?

end MockCluster.Toml
