/-
# Http.Response -- what a client gets back

A response has a status, headers and a body.  The type of the content follows
from the body; a response without a body has none.
-/
import GeoRegistry.Failure

namespace GeoRegistry.Http

set_option autoImplicit false

inductive Body where
  | empty
  | json (v : Json)
  | text (s : String)
  deriving Repr

structure Response where
  status : Nat
  /-- The headers but for the type of the content; names are in lower case. -/
  headers : List (String × String) := []
  body : Body := .empty
  deriving Repr

/-- The type of a body. -/
def Body.contentType? : Body → Option String
  | .empty => none
  | .json _ => some "application/json"
  | .text _ => some "text/plain; charset=utf-8"

namespace Response

/-- The headers, the type of the content included. -/
def allHeaders (r : Response) : List (String × String) :=
  (r.body.contentType?.map fun t => ("content-type", t)).toList ++ r.headers

/-- Further headers. -/
def adding (headers : List (String × String)) (r : Response) : Response :=
  { r with headers := r.headers ++ headers }

def json (status : Nat) (v : Json) : Response :=
  { status, body := .json v }

/-- A response that says one thing. -/
def saying (status : Nat) (detail : String) : Response :=
  .json status (.object [("detail", .text detail)])

/-- A response that tells the state of the service. -/
def state (status : Nat) (word : String) : Response :=
  .json status (.object [("status", .text word)])

/-- There is nothing at the path. -/
def notFound : Response := .saying 404 "Not Found"

/-- The path is not for the method, but for another one. -/
def wrongMethod (allowed : String) : Response :=
  (saying 405 "Method Not Allowed").adding [("allow", allowed)]

/-- The same is to be had at another address. -/
def elsewhere (address : String) : Response where
  status := 307
  headers := [("location", address)]

/-- Done, and nothing to say about it. -/
def noContent : Response where
  status := 204

/-- The service failed in a way that no rule foresees. -/
def broken : Response where
  status := 500
  body := .text "Internal Server Error"

/-- What is said of a number that JSON cannot write. -/
def unwritable : String := "Out of range float values are not JSON compliant"

/-- The response to a request that breaks rules: all complaints.  One about a
value that JSON cannot write cannot be sent. -/
def unprocessable (issues : List Issue) : Except Failure Response :=
  let detail := Json.array (issues.map (·.toJsonWith (Cell.toJsonWith Cell.logRendering)))
  if detail.isFinite then .ok (.json 422 (.object [("detail", detail)]))
  else .error (.badValue unwritable)

/-- A response whose body has octets.  One that says what went wrong may repeat
values of any height. -/
def sendable (r : Response) : Except Failure Response :=
  match r.body with
  | .json v => (if r.status < 300 then v.written else v.encodable).map fun _ => r
  | _ => .ok r

/-- The response to a failed request, for the failures that have a rule.  An
unknown caller is challenged for a token. -/
def ofFailure? : Failure → Option Response
  | .refused e => some (.json e.status (e.wireBody e.refusal.code))
  | .unauthorized detail => some ((saying 401 detail).adding [("www-authenticate", "Bearer")])
  | _ => none

end Response

end GeoRegistry.Http
