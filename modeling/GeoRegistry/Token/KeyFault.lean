/-
# Token.KeyFault -- why there is no key, or none that signs

A secret may spell keys of every kind.  Whether one suits the algorithm shows
only when it is put to use.
-/
import GeoRegistry.Text.Surrogate
import GeoRegistry.Text.Base64Url

namespace GeoRegistry.Token

set_option autoImplicit false

inductive KeyFault where
  /-- No token is signed with the algorithm of that name. -/
  | unsupported (algorithm : String)
  /-- There are no keys for the algorithm. -/
  | noKeys
  /-- A key of the algorithm signs nothing. -/
  | unfit
  /-- The key is no secret that both sides share. -/
  | unshared
  /-- A key for a digest is neither a text nor a record. -/
  | shapeless
  /-- A record describes a key of another kind. -/
  | otherKind (expected received : String)
  /-- A record leaves out what makes up the key. -/
  | incomplete
  /-- A text holds no key between the marks that belong around one. -/
  | unframed
  /-- A value that cannot be a key, and what it was taken for. -/
  | unparsed (wanted value : String)
  /-- The key of a cipher has the wrong size. -/
  | wrongSize (characters : Nat) (algorithm : String)
  /-- A value of a type that has no size, or that holds no keys. -/
  | wrongType
  /-- What makes up the key is no text. -/
  | noText
  /-- What makes up the key is no base64. -/
  | notBase64 (fault : Text.Base64Url.Fault)
  /-- The key has no octets. -/
  | unencodable (fault : Text.Unencodable)
  deriving DecidableEq, Repr

namespace KeyFault

/-- What is said about a fault. -/
def message : KeyFault → String
  | .unsupported algorithm => "Algorithm " ++ algorithm ++ " not supported."
  | .noKeys => "Unable to find an algorithm for key"
  | .unfit | .wrongType | .noText => ""
  | .unshared =>
      "The specified key is an asymmetric key or x509 certificate and should not be used as " ++
        "an HMAC secret."
  | .shapeless => "Expecting a string- or bytes-formatted key."
  | .otherKind expected received =>
      "Incorrect key type. Expected: '" ++ expected ++ "', Received: " ++ received
  | .incomplete => "Mandatory parameters are missing"
  | .unframed => "Unable to load PEM file."
  | .unparsed wanted value => "Unable to parse an " ++ wanted ++ " from key: " ++ value
  | .wrongSize characters algorithm =>
      "Key must be " ++ toString (8 * characters) ++ " bit for alg " ++ algorithm
  | .notBase64 fault => fault.message
  | .unencodable fault => fault.message

end KeyFault

end GeoRegistry.Token
