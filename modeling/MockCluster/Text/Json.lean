import MockCluster.Text.Utf8

/-!
# JSON text

Values of the data format and their two printed forms: `bytes` without any blank, and `pretty` with one element per
line, indented by two blanks. Fields are printed in the order in which they stand. In strings only the quote,
the backslash and the characters below U+0020 are escaped.
-/

namespace MockCluster

/-- A value of the format. Numbers are integers. -/
inductive Json where
  | null
  | bool (b : Bool)
  | num (n : Int)
  | str (s : String)
  | arr (items : List Json)
  | obj (fields : List (String × Json))
  deriving Inhabited, BEq, Repr

namespace Json

/-- The printed form of one character inside a string. -/
def escape (c : Char) : List Char :=
  match c with
  | '"' => ['\\', '"']
  | '\\' => ['\\', '\\']
  | '\x08' => ['\\', 'b']
  | '\x0c' => ['\\', 'f']
  | '\n' => ['\\', 'n']
  | '\r' => ['\\', 'r']
  | '\t' => ['\\', 't']
  | c => if c.toNat < 0x20 then ['\\', 'u'] ++ Bytes.hexDigits 4 c.toNat else [c]

/-- A string in quotes. -/
def quote (s : String) : List Char :=
  '"' :: (s.toList.flatMap escape ++ ['"'])

mutual
/-- The characters of the compact form. -/
def chars : Json → List Char
  | .null => ['n', 'u', 'l', 'l']
  | .bool true => ['t', 'r', 'u', 'e']
  | .bool false => ['f', 'a', 'l', 's', 'e']
  | .num n => n.repr.toList
  | .str s => quote s
  | .arr items => '[' :: itemsChars items
  | .obj fields => '\x7b' :: fieldsChars fields
/-- The elements of an array and the closing bracket. -/
def itemsChars : List Json → List Char
  | [] => [']']
  | [v] => v.chars ++ [']']
  | v :: rest => v.chars ++ ',' :: itemsChars rest
/-- The fields of an object and the closing brace. -/
def fieldsChars : List (String × Json) → List Char
  | [] => ['\x7d']
  | [(k, v)] => quote k ++ ':' :: (v.chars ++ ['\x7d'])
  | (k, v) :: rest => quote k ++ ':' :: (v.chars ++ ',' :: fieldsChars rest)
end

/-- The compact form as UTF-8 bytes. -/
def bytes (v : Json) : Bytes := v.chars.flatMap String.utf8EncodeChar

/-- A line break and the indentation of a nesting depth. -/
def newline (depth : Nat) : List Char := '\n' :: List.replicate (2 * depth) ' '

mutual
/-- The characters of the indented form of a value at a nesting depth. -/
def prettyChars (depth : Nat) : Json → List Char
  | .arr (v :: rest) =>
    '[' :: (newline (depth + 1) ++ v.prettyChars (depth + 1) ++ prettyItems depth rest)
  | .obj ((k, v) :: rest) =>
    '\x7b' :: (newline (depth + 1) ++ quote k ++ ':' :: ' ' :: v.prettyChars (depth + 1)
      ++ prettyFields depth rest)
  | .null => ['n', 'u', 'l', 'l']
  | .bool true => ['t', 'r', 'u', 'e']
  | .bool false => ['f', 'a', 'l', 's', 'e']
  | .num n => n.repr.toList
  | .str s => quote s
  | .arr [] => ['[', ']']
  | .obj [] => ['\x7b', '\x7d']
/-- The elements after the first, and the closing bracket. -/
def prettyItems (depth : Nat) : List Json → List Char
  | [] => newline depth ++ [']']
  | v :: rest => ',' :: (newline (depth + 1) ++ v.prettyChars (depth + 1) ++ prettyItems depth rest)
/-- The fields after the first, and the closing brace. -/
def prettyFields (depth : Nat) : List (String × Json) → List Char
  | [] => newline depth ++ ['\x7d']
  | (k, v) :: rest =>
    ',' :: (newline (depth + 1) ++ quote k ++ ':' :: ' ' :: v.prettyChars (depth + 1)
      ++ prettyFields depth rest)
end

/-- The indented form. -/
def pretty (v : Json) : String := String.ofList (v.prettyChars 0)

/-- A natural number as a value. -/
def nat (n : Nat) : Json := .num n

mutual
/-- The value with the fields of every object in ascending order of their names. -/
def sorted : Json → Json
  | .arr items => .arr (sortedItems items)
  | .obj fields => .obj ((sortedFields fields).mergeSort fun a b => a.1 ≤ b.1)
  | v => v
/-- Each element sorted. -/
def sortedItems : List Json → List Json
  | [] => []
  | v :: rest => v.sorted :: sortedItems rest
/-- Each field's value sorted. -/
def sortedFields : List (String × Json) → List (String × Json)
  | [] => []
  | (k, v) :: rest => (k, v.sorted) :: sortedFields rest
end

end Json

end MockCluster
