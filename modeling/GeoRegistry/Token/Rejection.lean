/-
# Token.Rejection -- why a token is not accepted

Clients are told only that their token could not be validated; which rule it
breaks goes to the log.
-/
import GeoRegistry.Failure

namespace GeoRegistry.Token

set_option autoImplicit false

inductive Rejection where
  /-- There are no three segments, or the first one is no base64. -/
  | segments
  | header
  | payloadPadding
  | signaturePadding
  | noAlgorithm
  | otherAlgorithm
  | signature
  | payload
  | issuedAt
  | notBefore
  | notYetValid
  | expiry
  | expired
  /-- The token is meant for someone in particular. -/
  | audience
  | claimFormat
  | subject
  | tokenId
  /-- The token vouches for an access token, and there is none. -/
  | noAccessToken
  deriving DecidableEq, Repr

namespace Rejection

/-- What the log says. -/
def text : Rejection → String
  | .segments => "Not enough segments"
  | .header => "Invalid header string"
  | .payloadPadding => "Invalid payload padding"
  | .signaturePadding => "Invalid crypto padding"
  | .noAlgorithm => "No algorithm was specified in the JWS header."
  | .otherAlgorithm => "The specified alg value is not allowed"
  | .signature => "Signature verification failed."
  | .payload => "Invalid payload string"
  | .issuedAt => "Issued At claim (iat) must be an integer."
  | .notBefore => "Not Before claim (nbf) must be an integer."
  | .notYetValid => "The token is not yet valid (nbf)"
  | .expiry => "Expiration Time claim (exp) must be an integer."
  | .expired => "Signature has expired."
  | .audience => "Invalid audience"
  | .claimFormat => "Invalid claim format in token"
  | .subject => "Subject must be a string."
  | .tokenId => "JWT ID must be a string."
  | .noAccessToken => "No access_token provided to compare against at_hash claim."

end Rejection

/-- Why a token earns no caller: it breaks a rule, or the rules have no answer
to it. -/
inductive Fault where
  | rejected (reason : Rejection)
  | unforeseen (failure : Failure)
  deriving Repr

end GeoRegistry.Token
