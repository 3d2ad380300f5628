/-
# Token.Claims -- what the claims of a token must be

Times are whole seconds.  A token holds from its start to its expiry, both
included; one without them always holds.  A token meant for an audience is not
meant for the registry.
-/
import GeoRegistry.Token.Rejection
import GeoRegistry.Integral
import GeoRegistry.Clock

namespace GeoRegistry.Token

set_option autoImplicit false

abbrev Claims := List (String × Json)

namespace Claims

/-- The integer of a claim. -/
def integer (unreadable : Rejection) (v : Json) : Except Fault Int :=
  match (Cell.ofJson v).integer with
  | .ok n => .ok n
  | .error (.badValue _) => .error (.rejected unreadable)
  | .error e => .error (.unforeseen e)

/-- Check a claim if it is there. -/
def ifPresent (claims : Claims) (name : String) (check : Json → Except Fault Unit) :
    Except Fault Unit :=
  match claims.lookup name with
  | none => .ok ()
  | some v => check v

/-- Reject unless a condition holds. -/
def need (reason : Rejection) (condition : Bool) : Except Fault Unit :=
  if condition then .ok () else .error (.rejected reason)

def isText : Json → Bool
  | .text _ => true
  | _ => false

/-- An audience is a text or a list of texts, and never the registry. -/
def checkAudience : Json → Except Fault Unit
  | .text _ => .error (.rejected .audience)
  | .array items => .error (.rejected (if items.all isText then .audience else .claimFormat))
  | _ => .error (.rejected .claimFormat)

/-- The whole second that the clock shows. -/
def second (now : Instant) : Except Fault Int :=
  (now.shown.map Instant.second).mapError .unforeseen

/-- Check all claims at a given moment. -/
def check (claims : Claims) (now : Instant) : Except Fault Unit := do
  claims.ifPresent "iat" fun v => do
    let _ ← integer .issuedAt v
  claims.ifPresent "nbf" fun v => do
    need .notYetValid ((← integer .notBefore v) ≤ (← second now))
  claims.ifPresent "exp" fun v => do
    let expiry ← integer .expiry v
    need .expired ((← second now) ≤ expiry)
  claims.ifPresent "aud" checkAudience
  claims.ifPresent "sub" fun v => need .subject (isText v)
  claims.ifPresent "jti" fun v => need .tokenId (isText v)
  claims.ifPresent "at_hash" fun _ => .error (.rejected .noAccessToken)

end Claims

end GeoRegistry.Token
