/-
# Http.CrossOrigin -- pages of other origins

Browsers let a page use a service of another origin only if the service says so.
Before an unusual request they ask for permission by a preflight; every other
response tells whether the page may read it.  All methods and headers are
allowed, credentials too; the origins are restricted, and no page may reach into
a private network.
-/
import GeoRegistry.Http.Request
import GeoRegistry.Http.Response

namespace GeoRegistry.Http

set_option autoImplicit false

/-- The origins whose pages may use the service. -/
structure CrossOrigin where
  origins : List String

namespace CrossOrigin

/-- Pages of the origin may use the service; a star stands for every origin. -/
def allows (c : CrossOrigin) (origin : String) : Bool :=
  c.origins.contains "*" || c.origins.contains origin

/-- The methods there are. -/
def methods : List String :=
  ["DELETE", "GET", "HEAD", "OPTIONS", "PATCH", "POST", "PUT", "QUERY"]

/-- Permission for an origin. -/
def permission (c : CrossOrigin) (origin : String) : List (String × String) :=
  if c.allows origin then [("access-control-allow-origin", origin)] else []

/-- The headers of every response to a preflight. -/
def preflightHeaders : List (String × String) :=
  [("vary", "Origin, Access-Control-Request-Method, Access-Control-Request-Headers, " ++
      "Access-Control-Request-Private-Network"),
   ("access-control-allow-methods", ", ".intercalate methods),
   ("access-control-max-age", "600"),
   ("access-control-allow-credentials", "true")]

/-- What a preflight asks for. -/
structure Plea where
  origin : String
  method : String
  /-- Headers, which are granted as they are asked for. -/
  headers : Option String := none
  /-- A private network is to be reached. -/
  inward : Bool := false

/-- What is wrong with a plea. -/
def failures (c : CrossOrigin) (p : Plea) : List String :=
  (if c.allows p.origin then [] else ["origin"]) ++
    (if methods.contains p.method then [] else ["method"]) ++
    (if p.inward then ["private-network"] else [])

/-- The response to a preflight. -/
def preflight (c : CrossOrigin) (p : Plea) : Response :=
  let failures := c.failures p
  let granted :=
    c.permission p.origin ++ (p.headers.map fun h => ("access-control-allow-headers", h)).toList
  { status := if failures.isEmpty then 200 else 400
    headers := preflightHeaders ++ granted
    body := .text <|
      if failures.isEmpty then "OK" else "Disallowed CORS " ++ ", ".intercalate failures }

/-- The response to a request that is a preflight. -/
def preflight? (c : CrossOrigin) (r : Request) : Option Response := do
  let origin ← r.header? "origin"
  let method ← r.header? "access-control-request-method"
  if r.method = "OPTIONS" then
    some (c.preflight
      { origin, method
        headers := r.header? "access-control-request-headers"
        inward := (r.header? "access-control-request-private-network").isSome })
  else none

/-- The headers that a response to any other request gets. -/
def headers (c : CrossOrigin) (r : Request) : List (String × String) :=
  ("vary", "Origin") ::
    match r.header? "origin" with
    | some origin => ("access-control-allow-credentials", "true") :: c.permission origin
    | none => []

end CrossOrigin

end GeoRegistry.Http
