import MockCluster.Bytes
import MockCluster.Toml.Value

/-!
# Writing TOML

The printed form of a document. In every table the plain values come before the tables in it; a table is announced by a
header with its full path, and so is every table of an array of tables. A table that holds nothing but tables has no
header of its own, but an empty one has. An array of two or more values has each of them on a line.
-/

namespace MockCluster.Toml

/-! ## Strings -/

/-- The ways to write a string. Those with three quotes at both ends may hold line feeds, and quotes of their own kind
unless three of them stand together. -/
inductive StringStyle where
  /-- A double quote at both ends. -/
  | basic
  /-- An apostrophe at both ends, and no escapes. -/
  | literal
  /-- Three double quotes at both ends. -/
  | basicLines
  /-- Three apostrophes at both ends, and no escapes. -/
  | literalLines
  deriving DecidableEq, Repr

/-- The length of the longest run of a character in a text that follows `run` of them. -/
def longestRun (c : Char) : (run : Nat) → List Char → Nat
  | run, [] => run
  | run, d :: rest => if d = c then longestRun c (run + 1) rest else max run (longestRun c 0 rest)

/-- Whether a character is a control that no string can hold as it is. -/
def isControl (c : Char) : Bool := (c < ' ' && c ≠ '\t' && c ≠ '\n') || c = '\x7f'

/-- Whether a text can be written in a style with every character but a tab as it is. -/
def StringStyle.isPlain (text : List Char) (style : StringStyle) : Bool :=
  let atMost (n : Nat) (c : Char) := longestRun c 0 text ≤ n
  !text.any isControl && match style with
  | .basic => atMost 0 '\\' && atMost 0 '"' && atMost 0 '\n'
  | .literal => atMost 0 '\'' && atMost 0 '\n'
  | .basicLines => atMost 0 '\\' && atMost 2 '"'
  | .literalLines => atMost 2 '\''

/-- The style of a string: the first plain one, or one with escapes if none is plain. -/
def stringStyle (text : List Char) : StringStyle :=
  match [.basic, .literal, .basicLines, .literalLines].find? (StringStyle.isPlain text) with
  | some style => style
  | none => if '\n' ∈ text then .basicLines else .basic

/-- A character other than a double quote in a string with escapes. A line feed may stand as it is between three
quotes. -/
def escapeChar (keepNewline : Bool) (c : Char) : List Char :=
  match c with
  | '\x08' => ['\\', 'b']
  | '\t' => ['\\', 't']
  | '\n' => if keepNewline then ['\n'] else ['\\', 'n']
  | '\x0c' => ['\\', 'f']
  | '\r' => ['\\', 'r']
  | '\\' => ['\\', '\\']
  | c =>
    if c < ' ' ∨ c = '\x7f' then ['\\', 'u'] ++ (Bytes.hexDigits 4 c.toNat).map Char.toUpper else [c]

/-- A text with escapes. Up to `room` double quotes may stand together as they are, of which `run` have just been
written. -/
def escapeText (keepNewline : Bool) (room : Nat) : (run : Nat) → List Char → List Char
  | _, [] => []
  | run, c :: rest =>
    if c ≠ '"' then escapeChar keepNewline c ++ escapeText keepNewline room 0 rest
    else if run < room then '"' :: escapeText keepNewline room (run + 1) rest
    else '\\' :: '"' :: escapeText keepNewline room 0 rest

/-- The written form of a string in a style. Between three quotes, a text with line feeds begins on a new line. -/
def StringStyle.write (text : List Char) (style : StringStyle) : String :=
  let opening := if '\n' ∈ text then ['\n'] else []
  String.ofList <| match style with
    | .basic => ['"'] ++ escapeText false 0 0 text ++ ['"']
    | .literal => ['\''] ++ text ++ ['\'']
    | .basicLines => ['"', '"', '"'] ++ opening ++ escapeText true 2 0 text ++ ['"', '"', '"']
    | .literalLines => ['\'', '\'', '\''] ++ opening ++ text ++ ['\'', '\'', '\'']

/-- The written form of a string. -/
def writeString (s : String) : String := (stringStyle s.toList).write s.toList

/-- The written form of a part of a key: bare if possible, else on one line, and with apostrophes if that saves
escapes. -/
def writeKey (key : String) : String :=
  let text := key.toList
  if text ≠ [] ∧ text.all (fun c => c.isAlphanum || c = '_' || c = '-') then key
  else ((([.basic, .literal].find? (StringStyle.isPlain text)).getD .basic : StringStyle)).write text

/-! ## Values and tables -/

/-- The written form of a plain value. -/
def writeValue : Toml → String
  | .string s => writeString s
  | .integer n => n.repr
  | .float literal | .datetime literal => literal
  | .boolean true => "true"
  | .boolean false => "false"
  | .array [] => "[]"
  | .array [v] => "[" ++ v.writeValue ++ "]"
  | .array items => "[" ++ writeItems items ++ "\n]"
  | .table fields => "\x7b " ++ writeFields fields ++ " \x7d"
where
  /-- Each element on a line of its own. -/
  writeItems : List Toml → String
    | [] => ""
    | v :: rest => "\n    " ++ v.writeValue ++ "," ++ writeItems rest
  /-- The fields on one line. -/
  writeFields : List (String × Toml) → String
    | [] => ""
    | [(key, v)] => writeKey key ++ " = " ++ v.writeValue
    | (key, v) :: rest => writeKey key ++ " = " ++ v.writeValue ++ ", " ++ writeFields rest

/-- Whether a value is written as tables with headers of their own. -/
def isSection : Toml → Bool
  | .table _ => true
  | .array (.table fields :: rest) => ((Toml.table fields) :: rest).all fun v => match v with
    | .table _ => true
    | _ => false
  | _ => false

/-- A header, or none for the document itself. -/
structure Heading where
  path : List String
  /-- Whether the table belongs to an array of tables. -/
  inArray : Bool

/-- The line of a header. -/
def Heading.line (h : Heading) : String :=
  let path := ".".intercalate (h.path.map writeKey)
  if h.inArray then "[[" ++ path ++ "]]\n" else "[" ++ path ++ "]\n"

/-- The lines of the plain values among fields. -/
def writePlain (fields : List (String × Toml)) : String :=
  String.join ((fields.filter fun (_, v) => !v.isSection).map fun (key, v) =>
    writeKey key ++ " = " ++ v.writeValue ++ "\n")

/-- The header and the plain values of a table, if there is anything to show. -/
def writeHead (h : Heading) (fields : List (String × Toml)) : List String :=
  let plain := writePlain fields
  if h.path.isEmpty then (if plain = "" then [] else [plain])
  else if h.inArray || plain ≠ "" || fields.isEmpty then [h.line ++ plain]
  else []

mutual
/-- The tables of a document, each with its header and plain values, in the order in which they are written. -/
def writeTables (path : List String) : Toml → List String
  | .table fields => writeHead ⟨path, false⟩ fields ++ writeSections path fields
  | .array items => writeArray path items
  | _ => []
/-- The tables of an array of tables. -/
def writeArray (path : List String) : List Toml → List String
  | [] => []
  | .table fields :: rest =>
    writeHead ⟨path, true⟩ fields ++ writeSections path fields ++ writeArray path rest
  | _ :: rest => writeArray path rest
/-- The tables among fields. -/
def writeSections (path : List String) : List (String × Toml) → List String
  | [] => []
  | (key, v) :: rest =>
    (if v.isSection then writeTables (path ++ [key]) v else []) ++ writeSections path rest
end

/-- The written form of a document: its tables with blank lines between them. -/
def write (fields : List (String × Toml)) : String :=
  "\n".intercalate (writeTables [] (.table fields))

end MockCluster.Toml
