/-!
# TOML values

The values of the configuration language. Floating-point numbers and dates are kept as they were written: no setting
has such a value.
-/

namespace MockCluster

/-- A value of the language. -/
inductive Toml where
  | string (s : String)
  | integer (n : Int)
  | float (literal : String)
  | boolean (b : Bool)
  | datetime (literal : String)
  | array (items : List Toml)
  | table (fields : List (String × Toml))
  deriving Inhabited, BEq, Repr

namespace Toml

/-- The value of a key among fields. -/
def lookup (key : String) (fields : List (String × Toml)) : Option Toml :=
  (fields.find? (·.1 = key)).map (·.2)

/-- The one key of the table as which a date can be read. -/
def datetimeKey : String := "$__toml_private_datetime"

/-- The fields of a value that can be read as a table: a table, or a date as a table with one key of its own. -/
def fields? : Toml → Option (List (String × Toml))
  | table fields => some fields
  | datetime literal => some [(datetimeKey, string literal)]
  | _ => none

/-- The fields of a record with the given names, as far as the value has them. A record may also be written as an
array that holds its fields in order. What is written beyond the fields is passed over. -/
def record? (names : List String) : Toml → Option (List (String × Toml))
  | array items => some (names.zip items)
  | v => v.fields?

/-- Whether a value holds nothing, and so can follow a name that needs no value. -/
def isHollow : Toml → Bool
  | array items => items.isEmpty
  | table fields => fields.isEmpty
  | _ => false

/-- The name in a value that is one of several names: a string, or a table with the name as its one key. -/
def name? : Toml → Option String
  | string s => some s
  | table [(name, v)] => if v.isHollow then some name else none
  | _ => none

/-- A string. -/
def string? : Toml → Option String
  | string s => some s
  | _ => none

/-- A natural number up to a bound. -/
def natUpTo? (bound : Nat) : Toml → Option Nat
  | integer n => if 0 ≤ n ∧ n ≤ bound then some n.toNat else none
  | _ => none

/-- An array. -/
def array? : Toml → Option (List Toml)
  | array items => some items
  | _ => none

end Toml

end MockCluster
