/-
# Token -- bearer tokens

The registry issues tokens that say who their bearer is, and knows its callers
by them.  A token that is not signed under the registry's secret, or whose claims
do not hold, is worth nothing.
-/
import GeoRegistry.Token.Signed
import GeoRegistry.Token.Claims
import GeoRegistry.Caller
import GeoRegistry.Dialogue

namespace GeoRegistry

set_option autoImplicit false

/-- Who issues tokens, and accepts those of its own. -/
structure Issuer where
  secret : String
  algorithm : String
  /-- How long a token lasts unless something else is said. -/
  minutes : Int

namespace Issuer

open Token
open Text (maxDigits tooManyDigitsToShow)

/-! ## Issuing -/

/-- How long a token lasts.  No lifetime, or an empty one, is the issuer's own. -/
def lifetime (i : Issuer) (asked : Option Span) : Except Failure Span :=
  match asked with
  | some s => if s = 0 then (Span.ofMinutes i.minutes).kept else .ok s
  | none => (Span.ofMinutes i.minutes).kept

/-- The moment a token issued now expires. -/
def expiry (i : Issuer) (now : Instant) (asked : Option Span) : Except Failure Instant := do
  let asked ← asked.mapM Span.kept
  let now ← now.shown
  now.after (← i.lifetime asked)

/-- What a token says of its bearer. -/
def payload (caller : Caller) (expiry : Instant) : Json :=
  .object
    [("sub", .text (toString caller.userId)), ("is_admin", .bool caller.isAdmin),
     ("login", (Cell.ofOption .text caller.login).toJson),
     ("email", (Cell.ofOption .text caller.email).toJson),
     ("name", (Cell.ofOption .text caller.name).toJson), ("exp", .int expiry.second)]

/-- Issue a token to a caller.  It names the caller by a number, and there is a limit to the
digits of a number that is shown. -/
def issue (i : Issuer) (now : Instant) (caller : Caller) (asked : Option Span) :
    Except Failure String := do
  let expiry ← i.expiry now asked
  if maxDigits < (Nat.toDigits 10 caller.userId.natAbs).length then
    .error (.badValue tooManyDigitsToShow)
  else (write i.algorithm i.secret (payload caller expiry)).mapError .unsignable

/-! ## Accepting -/

/-- The claims of a token that holds now. -/
def claims (i : Issuer) (now : Instant) (token : String) : Except Fault Claims := do
  let claims ← verified i.algorithm i.secret token
  Claims.check claims now
  return claims

/-- The bearer that claims describe. -/
def bearer (claims : Claims) : Except Failure Caller :=
  let malformed := Failure.unauthorized "Invalid user id format in token"
  let claim := fun name => (claims.lookup name).elim Cell.null .ofJson
  match claims.lookup "sub" with
  | none => .error (.unauthorized "Token missing required user information")
  | some v =>
      match (Cell.ofJson v).integer with
      | .error (.badValue _) => .error malformed
      | .error e => .error e
      | .ok id =>
          let read := Caller.read
            [("user_id", .int id), ("is_admin", .bool (!(claim "is_admin").isFalsy)),
             ("login", claim "login"), ("email", claim "email"), ("name", claim "name"),
             ("claims", .record (Cell.ofFields claims))]
          match read with
          | .accepted caller => .ok caller
          | .refused _ => .error malformed

/-- Where tokens are logged. -/
def logger : String := "geothing.core.authentication"

/-- The bearer of a token. -/
def authenticate {ε : Type} (i : Issuer) (now : Instant) (token : String) : Dialogue ε Caller :=
  match i.claims now token with
  | .ok claims => .ofExcept (bearer claims)
  | .error (.unforeseen e) => .fail e
  | .error (.rejected reason) => do
      .log { level := .warning, logger, message := "invalid JWT token: " ++ reason.text }
      .fail (.unauthorized "Could not validate credentials")

/-- The caller of a request, by the token it presents. -/
def caller {ε : Type} (i : Issuer) (now : Instant) : Option String → Dialogue ε Caller
  | none => .fail (.unauthorized "Not authenticated")
  | some token => i.authenticate now token

end Issuer

end GeoRegistry
