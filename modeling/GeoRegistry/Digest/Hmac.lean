/-
# Digest.Hmac -- digests under a secret key

The key, brought to the size of a block, marks the message on the inside and the
digest of that on the outside.
-/
import GeoRegistry.Digest.Sha2

namespace GeoRegistry.Digest

set_option autoImplicit false

variable {w : Nat}

/-- A key of one block: a longer one is digested, a shorter one filled with
zeros. -/
def blockKey (v : Sha2 w) (key : List UInt8) : List UInt8 :=
  let short := if Sha2.blockSize w < key.length then v.hash key else key
  short ++ List.replicate (Sha2.blockSize w - short.length) 0

/-- The digest of a message under a key. -/
def hmac (v : Sha2 w) (key message : List UInt8) : List UInt8 :=
  let k := blockKey v key
  v.hash (k.map (· ^^^ 0x5c) ++ v.hash (k.map (· ^^^ 0x36) ++ message))

end GeoRegistry.Digest
