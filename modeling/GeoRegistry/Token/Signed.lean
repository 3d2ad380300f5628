/-
# Token.Signed -- tokens in their compact form

A token is three segments in base64 with dots between them: a header that names
the algorithm, a payload, and the signature of everything before the last dot.
`write` writes a token; `verified` accepts exactly those whose header names the
expected algorithm and whose signature is that of their text under a key of the
secret.
-/
import GeoRegistry.Token.Key
import GeoRegistry.Token.Rejection
import GeoRegistry.Json.Printer
import GeoRegistry.Text.Base64Url

namespace GeoRegistry.Token

set_option autoImplicit false

open Text

/-! ## Writing -/

/-- The segment of a document. -/
def segment (v : Json) : String :=
  Base64Url.encode (Utf8.encode (v.render Json.compact))

/-- The header of a token. -/
def header (algorithm : String) : Json :=
  .object [("alg", .text algorithm), ("typ", .text "JWT")]

/-- A token with the given payload. -/
def write (algorithm secret : String) (payload : Json) : Except KeyFault String := do
  let key ← Key.issuing algorithm secret
  let text := segment (header algorithm) ++ "." ++ segment payload
  return text ++ "." ++ Base64Url.encode (← key.sign (Utf8.encode text))

/-! ## Reading -/

/-- A token taken apart; its payload and signature are decoded octets. -/
structure Signed where
  header : List (String × Json)
  payload : List UInt8
  /-- Everything before the last dot. -/
  text : List UInt8
  signature : List UInt8

/-- The octet between segments. -/
def dot : UInt8 := '.'.toUInt8

/-- Split at the first dot. -/
def atFirstDot? (octets : List UInt8) : Option (List UInt8 × List UInt8) :=
  match octets.span (· != dot) with
  | (before, _ :: after) => some (before, after)
  | (_, []) => none

/-- Split at the last dot. -/
def atLastDot? (octets : List UInt8) : Option (List UInt8 × List UInt8) :=
  (atFirstDot? octets.reverse).map fun (after, before) => (before.reverse, after.reverse)

/-- An outcome, or the rejection when there is none. -/
def orReject {α : Type} (reason : Rejection) : Option α → Except Fault α
  | some a => .ok a
  | none => .error (.rejected reason)

/-- Read octets as a document with named fields. -/
def readObject (reason : Rejection) (octets : List UInt8) :
    Except Fault (List (String × Json)) :=
  match (Utf8.decode? octets).map Json.parse with
  | some (.ok (.object fields)) => .ok fields
  | some (.error (.tooDeep container)) => .error (.unforeseen (.tooDeep container))
  | _ => .error (.rejected reason)

/-- The octets of a token. -/
def octets (token : String) : Except Fault (List UInt8) :=
  match unencodable? token with
  | some fault => .error (.unforeseen (.unencodable fault))
  | none => .ok (Utf8.encode token)

/-- Take a token apart. -/
def Signed.read (token : String) : Except Fault Signed := do
  let (text, signature) ← orReject .segments (atLastDot? (← octets token))
  let (header, payload) ← orReject .segments (atFirstDot? text)
  let header ← orReject .segments (Base64Url.decode? header)
  let header ← readObject .header header
  let payload ← orReject .payloadPadding (Base64Url.decode? payload)
  let signature ← orReject .signaturePadding (Base64Url.decode? signature)
  return { header, payload, text, signature }

/-- The header must name the expected algorithm. -/
def Signed.checkAlgorithm (s : Signed) (expected : String) : Except Fault Unit :=
  match s.header.lookup "alg" with
  | none => .error (.rejected .noAlgorithm)
  | some v =>
      if (Cell.ofJson v).isFalsy then .error (.rejected .noAlgorithm)
      else
        match v with
        | .text name => if name = expected then .ok () else .error (.rejected .otherAlgorithm)
        | _ => .error (.rejected .otherAlgorithm)

/-- The token is signed as expected. -/
def Signed.checkSignature (s : Signed) (algorithm secret : String) : Except Fault Unit := do
  let good : Except KeyFault Bool := do
    Key.anySigns (Family.accepting? algorithm) algorithm s.text s.signature (← Key.spelled secret)
  if ← good.mapError fun fault => .unforeseen (.badKey fault) then return ()
  else .error (.rejected .signature)

/-- The payload of a token that is signed as expected. -/
def verified (algorithm secret token : String) : Except Fault (List (String × Json)) := do
  let s ← Signed.read token
  s.checkAlgorithm algorithm
  s.checkSignature algorithm secret
  readObject .payload s.payload

end GeoRegistry.Token
