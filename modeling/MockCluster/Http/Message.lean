import MockCluster.Http.Headers
import MockCluster.Text.Json
import MockCluster.Text.Pieces

/-!
# Requests and responses

HTTP messages as handlers see and produce them.
-/

namespace MockCluster.Http

/-- A request. -/
structure Request where
  method : String
  /-- The path without the query. -/
  path : String
  /-- What follows the first question mark. -/
  query : Option String
  headers : Headers
  body : Bytes
  deriving DecidableEq, Repr, Inhabited

/-- A response. -/
structure Response where
  /-- Any number of 16 bits; what is no valid status is replaced when the response is sent. -/
  status : UInt16
  headers : Headers
  body : Bytes
  deriving DecidableEq, Repr, Inhabited

/-- A text before and after the first occurrence of a character. -/
def cutAt (c : Char) (text : List Char) : List Char × Option (List Char) :=
  match text.dropWhile (· ≠ c) with
  | [] => (text, none)
  | _ :: rest => (text.takeWhile (· ≠ c), some rest)

namespace Request

/-- A request for a target: a path, and a query after the first question mark. -/
def create (method target : String) : Request :=
  let (path, query) := cutAt '?' target.toList
  { method := method.toUpper
    path := String.ofList path
    query := query.map String.ofList
    headers := .empty
    body := [] }

/-- Adds a field, if name and value are valid. -/
def withHeader (r : Request) (name value : String) : Request :=
  { r with headers := r.headers.addText name value }

/-- The first value of a name in the query, as it stands there. A name without a value has the empty one. -/
def param? (r : Request) (name : String) : Option String := do
  let query ← r.query
  let pairs := (pieces (· = '&') query.toList).map (cutAt '=')
  let (_, value) ← pairs.find? fun (key, _) => String.ofList key = name
  return String.ofList (value.getD [])

end Request

namespace Response

/-- An empty response. -/
def create (status : UInt16) : Response := ⟨status, .empty, []⟩

/-- Adds a field, if name and value are valid. -/
def withHeader (r : Response) (name value : String) : Response :=
  { r with headers := r.headers.addText name value }

/-- Says that the body is JSON. -/
def asJson (r : Response) (body : Bytes) : Response :=
  { r.withHeader "content-type" "application/json" with body }

/-- A response whose body is JSON text already. -/
def json (status : UInt16) (body : Bytes) : Response := (create status).asJson body

/-- The response with a JSON value as its body. -/
def withJson (r : Response) (value : Json) : Response := r.asJson value.sorted.bytes

/-- A response with a text as its body. -/
def text (status : UInt16) (body : String) : Response := { create status with body := Utf8.encode body }

end Response

end MockCluster.Http
