/-
# Http.Request -- what a client sends

A request has a method, a target, headers and a body.  The target is taken apart
once: its path is read through its percent signs, its query stays as written
until somebody asks for its parameters.
-/
import GeoRegistry.Text.Percent
import GeoRegistry.Text.Split
import GeoRegistry.Text.Blank
import GeoRegistry.Text.IntegerLiteral
import GeoRegistry.Json
import GeoRegistry.Cell

namespace GeoRegistry.Http

set_option autoImplicit false

structure Request where
  method : String
  path : String
  /-- The query as written. -/
  query : String := ""
  headers : List (String × String) := []
  body : String := ""
  /-- The name of the server, for a request that does not say whom it is for. -/
  server : String := ""

namespace Request

/-- A request by its target: a path and perhaps a question mark and a query. -/
def ofTarget (method target : String) (headers : List (String × String)) (body server : String) :
    Request :=
  let (path, query) := Text.cut '?' target
  { method, path := Text.Percent.decode path, query, headers, body, server }

/-- The value of a header, by its name in lower case; the first one counts. -/
def header? (r : Request) (name : String) : Option String :=
  (r.headers.find? fun h => h.1.toLower == name).map (·.2)

/-! ## The path -/

/-- The pieces of a path between its slashes. -/
def segments (path : String) : List String :=
  Text.pieces '/' path

/-- A character of a path as it stands in an address: one that would end the path
there is written with a percent sign. -/
def pathChar (c : Char) : List Char :=
  if c = '?' ∨ c = '#' ∨ c = '\\' then Text.Percent.escaped (UInt8.ofNat c.toNat) else [c]

/-- A path as it stands in an address, behind a slash. -/
def pathText (path : String) : String :=
  String.ofList ((if path.startsWith "/" then [] else ['/']) ++ path.toList.flatMap pathChar)

/-- The path as it is logged: without characters that would break the line. -/
def shownPath (r : Request) : String :=
  String.ofList ((pathText r.path).toList.filter fun c => c != '\t' && c != '\r' && c != '\n')

/-! ## The host -/

/-- The greatest port. -/
def mostPort : Nat := 65535

/-- A text is the number of a port. -/
def isPort (cs : List Char) : Bool :=
  !cs.isEmpty && cs.length ≤ 5 && cs.all Char.isDigit &&
    Text.ofDigits (cs.map fun c => c.toNat - 48) ≤ mostPort

/-- A text is the name of a host, or a numeric address in brackets. -/
def isHostName (cs : List Char) : Bool :=
  match cs with
  | '[' :: rest =>
      match rest.reverse with
      | ']' :: inner =>
          !inner.isEmpty && inner.all fun c => (Text.hexDigit? c).isSome || c == ':' || c == '.'
      | _ => false
  | _ => !cs.isEmpty && cs.all fun c => c.isAlphanum || c == '.' || c == '-' || c == '_'

/-- A text says which host a request is for, and perhaps at which port. -/
def isHost (s : String) : Bool :=
  let cs := s.toList
  let port := Text.afterLast ':' cs
  isHostName cs || (isPort port && cs.length != port.length &&
    isHostName (cs.take (cs.length - port.length - 1)))

/-- Whom the request is for: the server, when the request makes no sense of it. -/
def host (r : Request) : String :=
  match r.header? "host" with
  | some h => if isHost h then h else r.server
  | none => r.server

/-! ## The query -/

/-- A name or value of a query: a plus sign is a blank. -/
def formText (s : String) : String :=
  Text.Percent.decode (s.map fun c => if c = '+' then ' ' else c)

/-- The name and the value of a parameter; without an equals sign its value is
empty. -/
def parameter (piece : String) : String × Cell :=
  let (name, value) := Text.cut '=' piece
  (formText name, .text (formText value))

/-- The parameters of the query; the last one of a name counts.  What the query
does not write with percent signs is taken octet by octet. -/
def parameters (r : Request) : Record :=
  let pieces := Text.pieces '&' (Text.Utf8.octetView r.query)
  Json.distinct ((pieces.filter (!·.isEmpty)).map parameter)

/-! ## The bearer token -/

/-- The token that the request presents. -/
def bearer? (r : Request) : Option String := do
  let (scheme, token) := Text.cut ' ' (← r.header? "authorization")
  let token := Text.trimBlank token
  if scheme.toLower = "bearer" ∧ token ≠ "" then some token else none

end Request

end GeoRegistry.Http
