/-
# Token.Algorithm -- the algorithms that tokens may name

Tokens are signed by a keyed digest with a secret shared by those who issue them
and those who accept them.  Other families of algorithms are known by name; the
secret of the registry is no key for most of them, and none of them signs its
tokens.
-/
import GeoRegistry.Digest.Hmac
import GeoRegistry.Text.Utf8

namespace GeoRegistry.Token

set_option autoImplicit false

/-- A keyed digest. -/
inductive Algorithm where
  | hs256
  | hs384
  | hs512
  deriving DecidableEq, Repr

namespace Algorithm

def name : Algorithm → String
  | .hs256 => "HS256"
  | .hs384 => "HS384"
  | .hs512 => "HS512"

def all : List Algorithm := [.hs256, .hs384, .hs512]

def ofName? (s : String) : Option Algorithm :=
  all.find? (·.name == s)

/-- The signature of a message under a key. -/
def sign (a : Algorithm) (key message : List UInt8) : List UInt8 :=
  match a with
  | .hs256 => Digest.hmac Digest.Sha2.sha256 key message
  | .hs384 => Digest.hmac Digest.Sha2.sha384 key message
  | .hs512 => Digest.hmac Digest.Sha2.sha512 key message

end Algorithm

/-- Algorithms that take their keys alike. -/
inductive Family where
  | digest (a : Algorithm)
  | rsa
  | ellipticCurve
  /-- A block cipher with keys of so many characters. -/
  | cipher (characters : Nat)
  /-- The secret is used as it is. -/
  | direct
  deriving DecidableEq, Repr

namespace Family

/-- The algorithms that are no digests and may be asked for a signature. -/
def issuing : List (String × Family) :=
  [("RS256", .rsa), ("RS384", .rsa), ("RS512", .rsa), ("RSA1_5", .rsa), ("RSA-OAEP", .rsa),
   ("RSA-OAEP-256", .rsa), ("ES256", .ellipticCurve), ("ES384", .ellipticCurve),
   ("ES512", .ellipticCurve), ("A128GCM", .cipher 16), ("A192GCM", .cipher 24),
   ("A256GCM", .cipher 32), ("A128KW", .cipher 16), ("A192KW", .cipher 24),
   ("A256KW", .cipher 32), ("A128CBC-HS256", .cipher 32), ("A192CBC-HS384", .cipher 48),
   ("A256CBC-HS512", .cipher 64), ("dir", .direct)]

/-- The algorithms for which there are keys and no signatures. -/
def accepting : List (String × Family) :=
  [("ECDH-ES", .ellipticCurve), ("ECDH-ES+A128KW", .ellipticCurve),
   ("ECDH-ES+A192KW", .ellipticCurve), ("ECDH-ES+A256KW", .ellipticCurve),
   ("A128CBC", .cipher 16), ("A192CBC", .cipher 24), ("A256CBC", .cipher 32)]

/-- The family of an algorithm that tokens may be signed with. -/
def issuing? (name : String) : Option Family :=
  ((Algorithm.ofName? name).map .digest).orElse fun _ => issuing.lookup name

/-- The family of an algorithm that a token may name. -/
def accepting? (name : String) : Option Family :=
  (issuing? name).orElse fun _ => accepting.lookup name

end Family

end GeoRegistry.Token
