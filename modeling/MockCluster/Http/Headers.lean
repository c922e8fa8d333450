import MockCluster.Bytes
import MockCluster.NameMap
import MockCluster.Text.Utf8

/-!
# Header fields

The header fields of a message. Names are compared without regard to case and kept in lower case; a name has at least
one value, and its values are kept in the order in which they were added. Adding a field with an invalid name or value
changes nothing.
-/

namespace MockCluster.Http

/-- Header fields: the values of each name, in the order in which they were added. -/
structure Headers where
  fields : NameMap (List Bytes)
  deriving DecidableEq, Repr, Inhabited

namespace Headers

/-- No fields. -/
def empty : Headers := ⟨.empty⟩

/-- Whether a character may stand in the name of a field. -/
def isTokenChar (c : Char) : Bool :=
  c.isAlphanum || "!#$%&'*+-.^_\x60|~".toList.contains c

/-- The greatest length of a name. -/
def maxName : Nat := 65535

/-- Whether a text is the name of a field. -/
def isName (name : String) : Bool := name ≠ "" && name.length ≤ maxName && name.toList.all isTokenChar

/-- Whether a byte may stand in a value. -/
def isValueByte (b : UInt8) : Bool := (0x20 ≤ b && b ≠ 0x7f) || b = 0x09

/-- Whether bytes are a value. -/
def isValue (value : Bytes) : Bool := value.all isValueByte

/-- The values of a name in any case. -/
def values (h : Headers) (name : String) : List Bytes := (h.fields.get? name.toLower).getD []

/-- Adds a field, if name and value are valid. -/
def add (h : Headers) (name : String) (value : Bytes) : Headers :=
  if isName name && isValue value then
    ⟨h.fields.insert name.toLower (h.values name ++ [value])⟩
  else h

/-- Adds a field whose value is a text. -/
def addText (h : Headers) (name value : String) : Headers := h.add name (Utf8.encode value)

/-- A value as text, if it has no byte above 0x7e. -/
def text? (value : Bytes) : Option String :=
  if value.all (· ≤ 0x7e) then some (Utf8.decodeLossy value) else none

/-- The first value of a name as text. -/
def get? (h : Headers) (name : String) : Option String :=
  (h.values name).head?.bind text?

/-- The values of a name that are text. -/
def getAll (h : Headers) (name : String) : List String :=
  (h.values name).filterMap text?

/-- The names with their values, in ascending order of names. -/
def entries (h : Headers) : List (String × List Bytes) := h.fields.entries

end Headers

end MockCluster.Http
