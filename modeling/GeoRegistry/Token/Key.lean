/-
# Token.Key -- the keys that a secret spells

The secret is a key itself when tokens are issued.  When they are accepted, a
secret that is a JSON text spells one key or several, and a token is good that is
signed under any of them.  A secret that is no JSON text is the one key there is
(`spelled_of_error`).
-/
import GeoRegistry.Token.Algorithm
import GeoRegistry.Token.KeyFault
import GeoRegistry.Token.Mark
import GeoRegistry.Json.Parser
import GeoRegistry.Cell.Quoted

namespace GeoRegistry.Token

set_option autoImplicit false

open Text

/-- A key for an algorithm. -/
inductive Key where
  /-- A key under which messages are digested. -/
  | digest (a : Algorithm) (octets : List UInt8)
  /-- A key that is good for other things. -/
  | unfit
  deriving DecidableEq, Repr

namespace Key

/-! ## Making keys -/

/-- The octets of a text. -/
def octets (s : String) : Except KeyFault (List UInt8) :=
  match unencodable? s with
  | some fault => .error (.unencodable fault)
  | none => .ok (Utf8.encode s)

/-- A record must describe a key of the given kind. -/
def expectKind (kind : String) (fields : List (String × Json)) : Except KeyFault Unit :=
  let received := (fields.lookup "kty").elim Cell.null .ofJson
  match received with
  | .text s => if s = kind then .ok () else .error (.otherKind kind s)
  | c => .error (.otherKind kind c.prose)

/-- A key for a digest: a text, or a record that holds it in base64. -/
def forDigest (a : Algorithm) : Json → Except KeyFault Key
  | .text s => do
      let key ← octets s
      if Mark.isMarked s then .error .unshared else .ok (.digest a key)
  | .object fields => do
      expectKind "oct" fields
      match fields.lookup "k" with
      | some (.text k) =>
          .ok (.digest a (← (Base64Url.decode (← octets k)).mapError .notBase64))
      | _ => .error .noText
  | _ => .error .shapeless

/-- A key of a kind that has a public half.  `wanted` is what it is taken for. -/
def withPublicHalf (kind wanted : String) (parameters : List String) : Json → Except KeyFault Key
  | .text s => do
      let _ ← octets s
      .error .unframed
  | .object fields => do
      expectKind kind fields
      if parameters.all fun p => fields.any (·.1 == p) then .ok .unfit else .error .incomplete
  | v => .error (.unparsed wanted (Cell.ofJson v).prose)

/-- The size of a value that has one. -/
def size? : Json → Option Nat
  | .text s => some s.length
  | .array items => some items.length
  | .object fields => some fields.length
  | _ => none

/-- A key of a cipher, which has a certain size. -/
def forCipher (characters : Nat) (algorithm : String) (v : Json) : Except KeyFault Key :=
  match size? v with
  | none => .error .wrongType
  | some n => if n = characters then .ok .unfit else .error (.wrongSize characters algorithm)

/-- The secret as it is. -/
def direct : Json → Except KeyFault Key
  | .text s => do
      let _ ← octets s
      .ok .unfit
  | _ => .error .wrongType

/-- Make a key for an algorithm of a family, if there are keys for it. -/
def make (family : Option Family) (algorithm : String) (v : Json) : Except KeyFault Key :=
  match family with
  | none => .error .noKeys
  | some (.digest a) => forDigest a v
  | some .rsa => withPublicHalf "RSA" "RSA_JWK" [] v
  | some .ellipticCurve => withPublicHalf "EC" "ECKey" ["x", "y", "crv"] v
  | some (.cipher characters) => forCipher characters algorithm v
  | some .direct => direct v

/-! ## Using keys -/

/-- The signature of a message under a key. -/
def sign (message : List UInt8) : Key → Except KeyFault (List UInt8)
  | .digest a key => .ok (a.sign key message)
  | .unfit => .error .unfit

/-- The key under which tokens are issued. -/
def issuing (algorithm secret : String) : Except KeyFault Key :=
  match Family.issuing? algorithm with
  | none => .error (.unsupported algorithm)
  | family => make family algorithm (.text secret)

/-- The signature is that of the message under one of several keys.  A key is made
only when those before it did not do. -/
def anySigns (family : Option Family) (algorithm : String) (message signature : List UInt8) :
    List Json → Except KeyFault Bool
  | [] => .ok false
  | v :: rest => do
      let key ← make family algorithm v
      if (key.sign message).toOption = some signature then .ok true
      else anySigns family algorithm message signature rest

/-! ## The keys of a secret -/

/-- The keys that a list of keys holds. -/
def listed : Json → Except KeyFault (List Json)
  | .array items => .ok items
  | .object fields => .ok (fields.map fun f => .text f.1)
  | .text s => .ok (s.toList.map fun c => .text (String.singleton c))
  | _ => .error .wrongType

/-- The keys of a record: those it lists, itself if it says of which kind it is,
and else its values. -/
def ofRecord (fields : List (String × Json)) : Except KeyFault (List Json) :=
  match fields.lookup "keys" with
  | some keys => listed keys
  | none =>
      if (fields.lookup "kty").isSome || fields.isEmpty then .ok [.object fields]
      else .ok (fields.map (·.2))

/-- The keys that a secret spells. -/
def spelled (secret : String) : Except KeyFault (List Json) :=
  match Json.parseVerbatim secret with
  | .error _ => .ok [.text secret]
  | .ok (.object fields) => ofRecord fields
  | .ok (.array items) => .ok items
  | .ok v => .ok [v]

/-- A secret that is no JSON text is the one key there is. -/
theorem spelled_of_error {secret : String} {fault : Json.Fault}
    (h : Json.parseVerbatim secret = .error fault) : spelled secret = .ok [.text secret] := by
  simp [spelled, h]

end Key

end GeoRegistry.Token
