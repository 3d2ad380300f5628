/-
# Digest.Sha2 -- the SHA-2 family of digests

A message is padded to whole blocks of sixteen words, and each block is mixed
into a state of eight words.  The members of the family differ in the width of
the words and in what is rotated by how much.  Their constants are the leading
bits of the fractional parts of the roots of the first primes: cube roots for
the rounds, square roots for the initial state.
-/

namespace GeoRegistry.Digest

set_option autoImplicit false

/-! ## Constants -/

/-- The greatest number of at most `bits` bits above `r` whose `k`-th power does
not exceed `n`, from its highest bit down. -/
def rootFrom (k n : Nat) : (bits r : Nat) → Nat
  | 0, r => r
  | bits + 1, r =>
      let s := r + Nat.pow 2 bits
      rootFrom k n bits (if Nat.pow s k ≤ n then s else r)

/-- The leading `w` bits of the fractional part of the `k`-th root of a number
below 512. -/
def rootFraction (w k p : Nat) : BitVec w :=
  BitVec.ofNat w (rootFrom k (p * Nat.pow 2 (k * w)) (w + 5) 0)

def isPrime (n : Nat) : Bool :=
  2 ≤ n && (List.range n).all fun d => d < 2 || n % d != 0

/-- The first eighty primes. -/
def primes : List Nat :=
  (List.range 410).filter isPrime

/-! ## Mixing -/

structure State (w : Nat) where
  a : BitVec w
  b : BitVec w
  c : BitVec w
  d : BitVec w
  e : BitVec w
  f : BitVec w
  g : BitVec w
  h : BitVec w

namespace State

variable {w : Nat}

/-- Eight words as a state. -/
def ofWords : List (BitVec w) → State w
  | [a, b, c, d, e, f, g, h] => ⟨a, b, c, d, e, f, g, h⟩
  | _ => ⟨0, 0, 0, 0, 0, 0, 0, 0⟩

def words (s : State w) : List (BitVec w) :=
  [s.a, s.b, s.c, s.d, s.e, s.f, s.g, s.h]

/-- Add states word by word. -/
def add (s t : State w) : State w :=
  ⟨s.a + t.a, s.b + t.b, s.c + t.c, s.d + t.d, s.e + t.e, s.f + t.f, s.g + t.g, s.h + t.h⟩

end State

/-- The rotations of a member of the family.  The schedule's mixers shift by
their last amount. -/
structure Mixers where
  upper : Nat × Nat × Nat
  lower : Nat × Nat × Nat
  early : Nat × Nat × Nat
  late : Nat × Nat × Nat

/-- A member of the family. -/
structure Sha2 (w : Nat) where
  mixers : Mixers
  rounds : List (BitVec w)
  initial : State w
  /-- How many octets of the state make the digest. -/
  size : Nat

namespace Sha2

variable {w : Nat}

def rotated (r : Nat × Nat × Nat) (x : BitVec w) : BitVec w :=
  x.rotateRight r.1 ^^^ x.rotateRight r.2.1 ^^^ x.rotateRight r.2.2

def shifted (r : Nat × Nat × Nat) (x : BitVec w) : BitVec w :=
  x.rotateRight r.1 ^^^ x.rotateRight r.2.1 ^^^ x >>> r.2.2

/-- One round with its constant and its word. -/
def round (v : Sha2 w) (s : State w) (constant word : BitVec w) : State w :=
  let choice := (s.e &&& s.f) ^^^ (~~~s.e &&& s.g)
  let majority := (s.a &&& s.b) ^^^ (s.a &&& s.c) ^^^ (s.b &&& s.c)
  let first := s.h + rotated v.mixers.lower s.e + choice + constant + word
  let second := rotated v.mixers.upper s.a + majority
  ⟨first + second, s.a, s.b, s.c, s.d + first, s.e, s.f, s.g⟩

/-- The word that follows sixteen words of the schedule. -/
def nextWord (v : Sha2 w) : List (BitVec w) → BitVec w
  | [w0, w1, _, _, _, _, _, _, _, w9, _, _, _, _, w14, _] =>
      shifted v.mixers.late w14 + w9 + shifted v.mixers.early w1 + w0
  | _ => 0

/-- The rounds that are left, with the next sixteen words of the schedule. -/
def mix (v : Sha2 w) : (constants schedule : List (BitVec w)) → State w → State w
  | constant :: constants, word :: rest, s =>
      v.mix constants (rest ++ [v.nextWord (word :: rest)]) (v.round s constant word)
  | _, _, s => s

/-- Mix a block into the state. -/
def block (v : Sha2 w) (s : State w) (words : List (BitVec w)) : State w :=
  s.add (v.mix v.rounds words s)

/-! ## Octets -/

/-- A word from its octets, highest first. -/
def wordOf (octets : List UInt8) : BitVec w :=
  octets.foldl (fun x b => x <<< 8 ||| BitVec.ofNat w b.toNat) 0

/-- The `n` lowest octets of a number, highest first. -/
def octetsOf (n value : Nat) : List UInt8 :=
  (List.range n).map fun i => .ofNat (value / Nat.pow 256 (n - 1 - i))

/-- The first `n` groups of `size` items. -/
def groups {α : Type} (size : Nat) : (n : Nat) → List α → List (List α)
  | 0, _ => []
  | n + 1, items => items.take size :: groups size n (items.drop size)

/-- How many octets a block has. -/
def blockSize (w : Nat) : Nat := 2 * w

/-- The zeros that fill the last block up, between the mark and the length. -/
def zeros (w length : Nat) : Nat :=
  (blockSize w - (length + 1 + w / 4) % blockSize w) % blockSize w

/-- A message with its mark, zeros and length in bits. -/
def padded (w : Nat) (message : List UInt8) : List UInt8 :=
  message ++ 0x80 :: List.replicate (zeros w message.length) 0 ++
    octetsOf (w / 4) (8 * message.length)

/-- The digest of a message. -/
def hash (v : Sha2 w) (message : List UInt8) : List UInt8 :=
  let text := padded w message
  let blocks := groups (blockSize w) (text.length / blockSize w) text
  let final := blocks.foldl (fun s b => v.block s ((groups (w / 8) 16 b).map wordOf)) v.initial
  (final.words.flatMap fun x => octetsOf (w / 8) x.toNat).take v.size

/-! ## The family -/

/-- Round constants of words of `w` bits. -/
def roundConstants (w count : Nat) : List (BitVec w) :=
  (primes.take count).map (rootFraction w 3)

/-- The initial state from eight primes. -/
def initialState (w : Nat) (eight : List Nat) : State w :=
  .ofWords (eight.map (rootFraction w 2))

def narrow : Mixers where
  upper := (2, 13, 22)
  lower := (6, 11, 25)
  early := (7, 18, 3)
  late := (17, 19, 10)

def wide : Mixers where
  upper := (28, 34, 39)
  lower := (14, 18, 41)
  early := (1, 8, 7)
  late := (19, 61, 6)

def sha256 : Sha2 32 where
  mixers := narrow
  rounds := roundConstants 32 64
  initial := initialState 32 (primes.take 8)
  size := 32

def sha384 : Sha2 64 where
  mixers := wide
  rounds := roundConstants 64 80
  initial := initialState 64 ((primes.drop 8).take 8)
  size := 48

def sha512 : Sha2 64 where
  mixers := wide
  rounds := roundConstants 64 80
  initial := initialState 64 (primes.take 8)
  size := 64

end Sha2

end GeoRegistry.Digest
