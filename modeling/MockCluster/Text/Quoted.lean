import MockCluster.Text.Printable

/-!
# Quoted text

Text in double quotes, as it is shown in messages: double quotes and backslashes are escaped, and characters that are
not printable are written as escapes.
-/

namespace MockCluster.Quoted

/-- The hexadecimal digits of a number without leading zeros. -/
def shortHex (n : Nat) : List Char := Nat.toDigits 16 n

/-- The shown form of one character. -/
def escape (c : Char) : List Char :=
  match c with
  | '\x00' => ['\\', '0']
  | '\t' => ['\\', 't']
  | '\n' => ['\\', 'n']
  | '\r' => ['\\', 'r']
  | '"' => ['\\', '"']
  | '\\' => ['\\', '\\']
  | c =>
    if Printable.isPrintable c then [c] else '\\' :: 'u' :: '\x7b' :: (shortHex c.toNat ++ ['\x7d'])

/-- The shown form of a text. -/
def quote (text : String) : String :=
  String.ofList ('"' :: (text.toList.flatMap escape ++ ['"']))

end MockCluster.Quoted
