/-!
# Magic bytes

The first byte of a frame. It tells a request from a response and which of the two header layouts follows: the
plain one, or the extended one that has room for framing extras.
-/

namespace MockCluster

/-- The first byte of a frame. -/
inductive Magic where
  /-- A request with the plain header. -/
  | req
  /-- A response with the plain header. -/
  | res
  /-- A request with framing extras. -/
  | reqExt
  /-- A response with framing extras. -/
  | resExt
  deriving DecidableEq, Repr, Inhabited

namespace Magic

/-- Every magic. -/
def all : List Magic := [req, res, reqExt, resExt]

/-- The byte on the wire. -/
def code : Magic → UInt8
  | req => 0x80
  | res => 0x81
  | reqExt => 0x08
  | resExt => 0x18

/-- The magic that a byte stands for. -/
def ofCode? (b : UInt8) : Option Magic := all.find? (·.code = b)

/-- Whether a frame with this magic is a request. -/
def isRequest : Magic → Bool
  | req | reqExt => true
  | res | resExt => false

/-- Whether the header has the extended layout. -/
def isExtended : Magic → Bool
  | reqExt | resExt => true
  | req | res => false

/-- The magic of a response in the same layout. -/
def response : Magic → Magic
  | req | res => res
  | reqExt | resExt => resExt

/-- The magic of a direction and a layout. -/
def make : (isRequest isExtended : Bool) → Magic
  | true, false => req
  | true, true => reqExt
  | false, false => res
  | false, true => resExt

theorem mem_all (m : Magic) : m ∈ all := by cases m <;> decide

@[simp] theorem ofCode?_code (m : Magic) : ofCode? m.code = some m := by cases m <;> rfl

@[simp] theorem make_isRequest_isExtended (m : Magic) : make m.isRequest m.isExtended = m := by
  cases m <;> rfl

end Magic

end MockCluster
