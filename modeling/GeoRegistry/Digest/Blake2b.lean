/-
# Digest.Blake2b -- digests of any size up to 64 octets

A message is cut into squares of 128 octets, the last one filled up with zeros.
Each square is mixed into a state of eight words by twelve rounds, which take
the words of the square in a new order every time.
-/
import GeoRegistry.Digest.Sha2
import GeoRegistry.Digest.Square

namespace GeoRegistry.Digest.Blake2b

set_option autoImplicit false

/-- The orders in which the rounds take the words of a message. -/
def orders : List (List Nat) :=
  let first := [0, 1, 2, 3, 4, 5, 6, 7, 8, 9, 10, 11, 12, 13, 14, 15]
  let second := [14, 10, 4, 8, 9, 15, 13, 6, 1, 12, 0, 2, 11, 7, 5, 3]
  [first,
   second,
   [11, 8, 12, 0, 5, 2, 15, 13, 10, 14, 3, 6, 7, 1, 9, 4],
   [7, 9, 3, 1, 13, 12, 11, 14, 2, 6, 5, 10, 4, 0, 15, 8],
   [9, 0, 5, 7, 2, 4, 10, 15, 14, 1, 11, 12, 6, 8, 3, 13],
   [2, 12, 6, 10, 0, 11, 8, 3, 4, 13, 7, 5, 15, 14, 1, 9],
   [12, 5, 1, 15, 14, 13, 4, 10, 0, 7, 6, 3, 9, 2, 8, 11],
   [13, 11, 7, 14, 12, 1, 3, 9, 5, 0, 15, 4, 8, 6, 2, 10],
   [6, 15, 14, 9, 11, 3, 0, 8, 12, 2, 13, 7, 1, 4, 10, 5],
   [10, 2, 8, 4, 7, 6, 1, 5, 15, 11, 9, 14, 3, 12, 13, 0],
   first,
   second]

/-- The words that a state starts from: the fractional parts of the square roots
of the first eight primes. -/
def initial : List UInt64 :=
  (Sha2.initialState 64 (primes.take 8)).words.map (.ofNat ·.toNat)

/-- The square with its words in another order. -/
def reordered (m : Square) (order : List Nat) : Square :=
  let words := m.words
  .ofWords (order.map fun i => words.getD i 0)

/-- Mix a block into the state: `count` octets have been read with it. -/
def block (state : List UInt64) (count : Nat) (final : Bool) (m : Square) : List UInt64 :=
  let marks : List UInt64 := [.ofNat count, 0, if final then .ofNat (Nat.pow 2 64 - 1) else 0, 0]
  let start := Square.ofWords (state ++ initial.take 4 ++ (initial.drop 4).zipWith (· ^^^ ·) marks)
  let mixed := (orders.foldl (fun s order => s.round (· + ·) (reordered m order)) start).words
  state.zipWith (· ^^^ ·) (mixed.zipWith (· ^^^ ·) (mixed.drop 8))

/-- Mix in the blocks that are left; `count` octets have been read. -/
def blocks : (left : Nat) → (state : List UInt64) → (count : Nat) → List UInt8 → List UInt64
  | 0, state, count, octets =>
      block state (count + octets.length) true
        (.ofOctets (octets ++ List.replicate (128 - octets.length) 0))
  | left + 1, state, count, octets =>
      blocks left (block state (count + 128) false (.ofOctets (octets.take 128))) (count + 128)
        (octets.drop 128)

/-- The state before the first block of a digest of `size` octets. -/
def start (size : Nat) : List UInt64 :=
  initial.zipWith (· ^^^ ·) [0x01010000 ^^^ UInt64.ofNat size, 0, 0, 0, 0, 0, 0, 0]

/-- The digest of a message, `size` octets long. -/
def hash (size : Nat) (message : List UInt8) : List UInt8 :=
  let final := blocks ((message.length - 1) / 128) (start size) 0 message
  (final.flatMap fun w => lowestFirst 8 w.toNat).take size

end GeoRegistry.Digest.Blake2b
