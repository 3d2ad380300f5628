/-
# Http.Document -- the body of a request as a document

A body that is declared to be JSON is parsed, in whatever encoding its first
octets show; a byte order mark before UTF-8 does not count.  Any other body is a
text.  An empty body is no document, whatever it is declared to be.
-/
import GeoRegistry.Http.Request
import GeoRegistry.Json.Parser
import GeoRegistry.Text.Encoding
import GeoRegistry.Validation.Checked

namespace GeoRegistry.Http

set_option autoImplicit false

/-- A type of content is JSON: the media type `application/json`, or one of its
kind.  Case and parameters do not matter. -/
def isJsonType (contentType : String) : Bool :=
  match Text.pieces '/' (Text.trimBlank (Text.cut ';' contentType).1).toLower with
  | ["application", kind] => kind == "json" || kind.endsWith "+json"
  | _ => false

/-- What a request brings in its body. -/
abbrev Document := Option Cell

namespace Document

/-- Why a body is no document. -/
inductive Fault where
  /-- It is no JSON; at which character. -/
  | malformed (offset : Nat)
  /-- It cannot be read: it is no text in its encoding, holds a number that is too
  long, or is nested too deep. -/
  | unreadable
  deriving DecidableEq, Repr

/-- A text without the byte order mark before it. -/
def unmarked (s : String) : String :=
  match s.toList with
  | '\ufeff' :: rest => String.ofList rest
  | _ => s

/-- The text that a body is meant as. -/
def meant? (body : String) : Option String :=
  let octets := Text.Utf8.encode body
  match Text.Encoding.ofDocument octets with
  | .utf8 => some (unmarked body)
  | wide => wide.decode? octets

/-- Read a JSON text. -/
def ofJsonText (s : String) : Except Fault Cell :=
  match Json.parse s with
  | .ok v => .ok (.ofJson v)
  | .error (.malformed left) => .error (.malformed (Json.Fault.offset s.length (.malformed left)))
  | .error (.oversized _) | .error (.tooDeep _) => .error .unreadable

/-- The document of a request. -/
def ofRequest (r : Request) : Except Fault Document :=
  if r.body.isEmpty then .ok none
  else if (r.header? "content-type").any isJsonType then
    match meant? r.body with
    | some s => (ofJsonText s).map some
    | none => .error .unreadable
  else .ok (some (.text r.body))

/-- The complaint about a text that is no JSON. -/
def malformedIssue (offset : Nat) : Issue :=
  ⟨.json, [.name "body", .index offset], .record []⟩

/-- Read a document of a shape. -/
def read {α : Type} (shape : Shape α) (d : Document) : Checked α :=
  Checked.within (.name "body") <|
    match d with
    | none => .complaint .missing .null
    | some (.record fields) => shape.read fields
    | some c => .complaint .bodyShape c

end Document

end GeoRegistry.Http
