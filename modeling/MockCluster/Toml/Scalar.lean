import MockCluster.Bytes
import MockCluster.Toml.Value

/-!
# TOML scalars

Strings in their four forms, numbers, dates and truth values. A reader takes a value off the front of a text and gives
what follows it; a bare scalar is a word up to the first character that cannot belong to one, and is then classified as
a whole.
-/

namespace MockCluster.Toml

/-- Takes something off the front of a text. -/
abbrev Reader (α : Type) := List Char → Option (α × List Char)

/-- What follows a fixed text. -/
def expect : List Char → List Char → Option (List Char)
  | [], text => some text
  | _ :: _, [] => none
  | c :: more, d :: text => if c = d then expect more text else none

/-- A blank or a tab. -/
def isBlank (c : Char) : Bool := c = ' ' || c = '\t'

/-- The text after blanks and tabs. -/
def skipBlanks (text : List Char) : List Char := text.dropWhile isBlank

/-- A character that is no control character other than a tab. -/
def isPlain (c : Char) : Bool := c = '\t' || (' ' ≤ c && c ≠ '\x7f')

/-- What follows a line end. -/
def lineEnd? : List Char → Option (List Char)
  | '\n' :: text => some text
  | '\r' :: '\n' :: text => some text
  | _ => none

/-! ## Strings -/

/-- A character written as `width` hexadecimal digits. -/
def hexEscape (width : Nat) : Reader Char := fun text =>
  let digits := text.take width
  if digits.length = width ∧ digits.all (fun c => (Bytes.hexValue? c).isSome) then
    let n := digits.foldl (fun n c => n * 16 + (Bytes.hexValue? c).getD 0) 0
    if n.isValidChar then some (Char.ofNat n, text.drop width) else none
  else none

/-- The character that an escape stands for, after its backslash. -/
def escape : Reader Char
  | 'b' :: text => some ('\x08', text)
  | 'f' :: text => some ('\x0c', text)
  | 'n' :: text => some ('\n', text)
  | 'r' :: text => some ('\r', text)
  | 't' :: text => some ('\t', text)
  | '\\' :: text => some ('\\', text)
  | '"' :: text => some ('"', text)
  | 'u' :: text => hexEscape 4 text
  | 'U' :: text => hexEscape 8 text
  | _ => none

/-- The rest of a string in double quotes, up to and including its closing quote. -/
def basicString (fuel : Nat) (done : List Char) : Reader String := fun text =>
  match fuel, text with
  | 0, _ | _, [] => none
  | _ + 1, '"' :: text => some (String.ofList done.reverse, text)
  | fuel + 1, '\\' :: text =>
    match escape text with
    | some (c, text) => basicString fuel (c :: done) text
    | none => none
  | fuel + 1, c :: text => if isPlain c then basicString fuel (c :: done) text else none

/-- The rest of a string in single quotes. Nothing is escaped in it. -/
def literalString (text : List Char) : Option (String × List Char) :=
  let content := text.takeWhile fun c => c ≠ '\'' && isPlain c
  match text.drop content.length with
  | '\'' :: rest => some (String.ofList content, rest)
  | _ => none

/-- How a run of quotes in a long string splits: three close the string, and at most two before them belong to it. -/
def closingQuotes (run : Nat) : Option Nat :=
  if run < 3 then none else some (min (run - 3) 2)

/-- The text after a backslash at the end of a line: blanks and line ends are passed over. -/
def joinLines? (text : List Char) : Option (List Char) :=
  match lineEnd? (skipBlanks text) with
  | none => none
  | some text => some (skip text.length text)
where
  /-- Passes over blanks and line ends. -/
  skip : Nat → List Char → List Char
    | 0, text => text
    | fuel + 1, text =>
      let text := skipBlanks text
      match lineEnd? text with
      | some text => skip fuel text
      | none => text

/-- The rest of a string in three quotes of either kind. A line end in it is a line feed, however it was written. -/
def longString (quote : Char) (fuel : Nat) (done : List Char) : Reader String := fun text =>
  match fuel, text with
  | 0, _ | _, [] => none
  | fuel + 1, c :: text =>
    if c = quote then
      let run := 1 + (text.takeWhile (· = quote)).length
      match closingQuotes run with
      | some kept =>
        some (String.ofList (done.reverse ++ List.replicate kept quote), (c :: text).drop (kept + 3))
      | none => longString quote fuel (List.replicate run quote ++ done) ((c :: text).drop run)
    else if c = '\\' ∧ quote = '"' then
      match joinLines? text with
      | some text => longString quote fuel done text
      | none =>
        match escape text with
        | some (c, text) => longString quote fuel (c :: done) text
        | none => none
    else if isPlain c then longString quote fuel (c :: done) text
    else match lineEnd? (c :: text) with
      | some text => longString quote fuel ('\n' :: done) text
      | none => none

/-- A string in any of its four forms. A line end right after three opening quotes does not belong to the string. -/
def readString : Reader String := fun text =>
  match text with
  | '"' :: '"' :: '"' :: text => longString '"' (text.length + 1) [] ((lineEnd? text).getD text)
  | '\'' :: '\'' :: '\'' :: text => longString '\'' (text.length + 1) [] ((lineEnd? text).getD text)
  | '"' :: text => basicString (text.length + 1) [] text
  | '\'' :: text => literalString text
  | _ => none

/-! ## Numbers -/

/-- The digits of a number in which single underscores may stand between digits. -/
def digits? (isDigit : Char → Bool) : List Char → Option (List Char)
  | [] => none
  | [c] => if isDigit c then some [c] else none
  | c :: '_' :: rest => if isDigit c then (digits? isDigit rest).map (c :: ·) else none
  | c :: rest => if isDigit c then (digits? isDigit rest).map (c :: ·) else none

/-- The value of digits in a base. -/
def digitsValue (base : Nat) (digits : List Char) : Nat :=
  digits.foldl (fun n c => n * base + (Bytes.hexValue? c).getD 0) 0

/-- Whether a character is a digit in a base. -/
def isDigitOf (base : Nat) (c : Char) : Bool := (Bytes.hexValue? c).any (· < base)

/-- Whether the number is negative, and the text after its sign. -/
def sign : List Char → Bool × List Char
  | '-' :: text => (true, text)
  | '+' :: text => (false, text)
  | text => (false, text)

/-- The digits of a decimal number: no leading zero, except in zero itself. -/
def decimal? (text : List Char) : Option (List Char) :=
  match digits? Char.isDigit text with
  | some ('0' :: _ :: _) => none
  | digits => digits

/-- The number if it fits 64 bits with a sign. -/
def inRange? (n : Int) : Option Int :=
  if -9223372036854775808 ≤ n ∧ n ≤ 9223372036854775807 then some n else none

/-- An integer: decimal with a sign, or hexadecimal, octal or binary without. -/
def integer? (word : List Char) : Option Int :=
  match word with
  | '0' :: 'x' :: text => (digits? (isDigitOf 16) text).bind fun ds => inRange? (digitsValue 16 ds)
  | '0' :: 'o' :: text => (digits? (isDigitOf 8) text).bind fun ds => inRange? (digitsValue 8 ds)
  | '0' :: 'b' :: text => (digits? (isDigitOf 2) text).bind fun ds => inRange? (digitsValue 2 ds)
  | word =>
    let (negative, text) := sign word
    (decimal? text).bind fun ds =>
      let n : Int := digitsValue 10 ds
      inRange? (if negative then -n else n)

/-- A floating-point number taken apart. -/
structure Decimal where
  /-- Whether there is a minus sign. -/
  negative : Bool
  /-- The digits before and after the point. -/
  digits : List Char
  /-- The number of digits after the point. -/
  places : Nat
  /-- The exponent of ten. -/
  exponent : Int

/-- Whether the number is at least the least one that rounds to infinity, 2^1024 - 2^970. -/
def Decimal.isInfinite (d : Decimal) : Bool :=
  let digits := d.digits.dropWhile (· = '0')
  let exponent := d.exponent - d.places
  let magnitude := exponent + digits.length
  if digits.isEmpty || magnitude < 300 then false
  else if 400 < magnitude then true
  else
    let n := digitsValue 10 digits
    let bound := Nat.pow 2 1024 - Nat.pow 2 970
    if 0 ≤ exponent then bound ≤ n * Nat.pow 10 exponent.toNat else bound * Nat.pow 10 (-exponent).toNat ≤ n

/-- The exponent of a floating-point number, after the letter. Beyond nine digits only its size matters. -/
def exponent? (text : List Char) : Option Int :=
  let (negative, text) := sign text
  (digits? Char.isDigit text).map fun ds =>
    let ds := ds.dropWhile (· = '0')
    let n : Int := if ds.length ≤ 9 then digitsValue 10 ds else 1000000000
    if negative then -n else n

/-- A floating-point number: decimal, with a fraction or an exponent or both. -/
def decimalFloat? (word : List Char) : Option Decimal := do
  let (negative, text) := sign word
  let isMark (c : Char) : Bool := c = 'e' || c = 'E'
  let mantissa := text.takeWhile (!isMark ·)
  let exponent ← match text.dropWhile (!isMark ·) with
    | [] => some 0
    | _ :: rest => exponent? rest
  let whole ← decimal? (mantissa.takeWhile (· ≠ '.'))
  match mantissa.dropWhile (· ≠ '.') with
  | [] => if text.any isMark then some ⟨negative, whole, 0, exponent⟩ else none
  | _ :: fraction =>
    let fraction ← digits? Char.isDigit fraction
    return ⟨negative, whole ++ fraction, fraction.length, exponent⟩

/-- Whether a word is a floating-point number. One that is too great for any is refused; one that is too small is not. -/
def isFloat (word : List Char) : Bool :=
  let (_, text) := sign word
  if text = ['i', 'n', 'f'] || text = ['n', 'a', 'n'] then true
  else match decimalFloat? word with
    | some d => d.negative || !d.isInfinite
    | none => false

/-! ## Dates -/

/-- A number of exactly `width` digits between two bounds. -/
def fixed (width low high : Nat) : Reader Nat := fun text =>
  let digits := text.take width
  if digits.length = width ∧ digits.all Char.isDigit then
    let n := digitsValue 10 digits
    if low ≤ n ∧ n ≤ high then some (n, text.drop width) else none
  else none

/-- The number of days of a month. -/
def daysIn (year month : Nat) : Nat :=
  if month = 2 then
    if year % 4 = 0 ∧ (year % 100 ≠ 0 ∨ year % 400 = 0) then 29 else 28
  else if month = 4 ∨ month = 6 ∨ month = 9 ∨ month = 11 then 30
  else 31

/-- What follows a date. -/
def afterDate? (text : List Char) : Option (List Char) := do
  let (year, text) ← fixed 4 0 9999 text
  let (month, text) ← fixed 2 1 12 (← expect ['-'] text)
  let (_, text) ← fixed 2 1 (daysIn year month) (← expect ['-'] text)
  return text

/-- What follows a time of day. -/
def afterTime? (text : List Char) : Option (List Char) := do
  let (_, text) ← fixed 2 0 23 text
  let (_, text) ← fixed 2 0 59 (← expect [':'] text)
  let (_, text) ← fixed 2 0 60 (← expect [':'] text)
  match text with
  | '.' :: c :: rest => if c.isDigit then some (rest.dropWhile Char.isDigit) else none
  | text => some text

/-- Whether a text is a distance from universal time. -/
def isOffset : List Char → Bool
  | ['Z'] | ['z'] => true
  | c :: text =>
    (c = '+' || c = '-') && ((do
      let (_, text) ← fixed 2 0 23 text
      let (_, text) ← fixed 2 0 59 (← expect [':'] text)
      return text) == some [])
  | [] => false

/-- Whether a text is a time of day, possibly with a distance from universal time. -/
def isTimeWithOffset (text : List Char) : Bool :=
  match afterTime? text with
  | some [] => true
  | some rest => isOffset rest
  | none => false

/-- Whether a word is a time of day, a date, or a date with a time. -/
def isDatetime (word : List Char) : Bool :=
  match afterDate? word with
  | some [] => true
  | some (c :: rest) => (c = 'T' || c = 't') && isTimeWithOffset rest
  | none => afterTime? word == some []

/-! ## Words -/

/-- A character that may stand in a bare scalar. -/
def isWordChar (c : Char) : Bool :=
  c.isAlphanum || c = '+' || c = '-' || c = '.' || c = '_' || c = ':'

/-- The value of a bare scalar. -/
def ofWord? (word : List Char) : Option Toml :=
  if word = ['t', 'r', 'u', 'e'] then some (.boolean true)
  else if word = ['f', 'a', 'l', 's', 'e'] then some (.boolean false)
  else if isDatetime word then some (.datetime (String.ofList word))
  else if isFloat word then some (.float (String.ofList word))
  else (integer? word).map .integer

/-- A bare scalar. A date may be followed by a blank and a time. -/
def readWord : Reader Toml := fun text =>
  let word := text.takeWhile isWordChar
  let rest := text.drop word.length
  match rest with
  | ' ' :: c :: more =>
    if c.isDigit ∧ afterDate? word = some [] then
      let time := (c :: more).takeWhile isWordChar
      if isTimeWithOffset time then
        some (.datetime (String.ofList (word ++ ' ' :: time)), (c :: more).drop time.length)
      else none
    else (ofWord? word).map (·, rest)
  | _ => (ofWord? word).map (·, rest)

end MockCluster.Toml
