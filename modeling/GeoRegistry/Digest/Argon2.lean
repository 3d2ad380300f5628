/-
# Digest.Argon2 -- digests that cost memory

A password and a salt fill a memory of blocks, each a mixture of the one before
it and one from anywhere in what has been filled.  The memory has lanes; a lane
is filled segment by segment, four to a pass, and a block draws on its own lane
or on what the other lanes had at the start of the segment.  Where a block draws
from is told by the block before it, or by the position alone: the variants
differ in that.
-/
import GeoRegistry.Digest.Blake2b

namespace GeoRegistry.Digest.Argon2

set_option autoImplicit false

/-- What tells where a block draws from. -/
inductive Variant where
  /-- The block before it. -/
  | data
  /-- Its position. -/
  | independent
  /-- Its position in the first half of the first pass, then the block before it. -/
  | hybrid
  deriving DecidableEq, Repr

/-- What a digest costs. -/
structure Cost where
  /-- How many blocks of 1024 octets there are at most. -/
  memory : Nat
  passes : Nat
  lanes : Nat
  deriving DecidableEq, Repr

/-- How a digest is made. -/
structure Recipe where
  variant : Variant
  version : Nat
  cost : Cost
  deriving DecidableEq, Repr

namespace Variant

def number : Variant → Nat
  | .data => 0
  | .independent => 1
  | .hybrid => 2

/-- In a slice of a pass, blocks draw by their position. -/
def byPosition (v : Variant) (pass slice : Nat) : Bool :=
  match v with
  | .data => false
  | .independent => true
  | .hybrid => pass == 0 && slice < 2

end Variant

namespace Cost

/-- How many blocks a segment has. -/
def segment (c : Cost) : Nat := c.memory / (4 * c.lanes)

/-- How many blocks a lane has. -/
def lane (c : Cost) : Nat := 4 * c.segment

end Cost

/-! ## Blocks -/

/-- A block: eight squares. -/
structure Block where
  s0 : Square
  s1 : Square
  s2 : Square
  s3 : Square
  s4 : Square
  s5 : Square
  s6 : Square
  s7 : Square

namespace Block

def zero : Block :=
  ⟨.zero, .zero, .zero, .zero, .zero, .zero, .zero, .zero⟩

def squares (b : Block) : List Square :=
  [b.s0, b.s1, b.s2, b.s3, b.s4, b.s5, b.s6, b.s7]

def ofSquares : List Square → Block
  | [s0, s1, s2, s3, s4, s5, s6, s7] => ⟨s0, s1, s2, s3, s4, s5, s6, s7⟩
  | _ => zero

def xor (b c : Block) : Block :=
  ⟨b.s0.xor c.s0, b.s1.xor c.s1, b.s2.xor c.s2, b.s3.xor c.s3,
   b.s4.xor c.s4, b.s5.xor c.s5, b.s6.xor c.s6, b.s7.xor c.s7⟩

/-- The sum of two words and twice the product of their lower halves. -/
@[inline]
def sum (x y : UInt64) : UInt64 :=
  x + y + 2 * ((x &&& 0xffffffff) * (y &&& 0xffffffff))

/-- Mix the words of a square. -/
def mixedSquare (s : Square) : Square :=
  s.round sum .zero

/-- Mix the words of every square. -/
def mixed (b : Block) : Block :=
  ⟨mixedSquare b.s0, mixedSquare b.s1, mixedSquare b.s2, mixedSquare b.s3,
   mixedSquare b.s4, mixedSquare b.s5, mixedSquare b.s6, mixedSquare b.s7⟩

/-- The pairs at one place of every square, as a square. -/
@[inline]
def across (x y : Square → UInt64) (b : Block) : Square :=
  ⟨x b.s0, y b.s0, x b.s1, y b.s1, x b.s2, y b.s2, x b.s3, y b.s3,
   x b.s4, y b.s4, x b.s5, y b.s5, x b.s6, y b.s6, x b.s7, y b.s7⟩

/-- The block whose squares are the pairs across the squares. -/
def transposed (b : Block) : Block :=
  ⟨b.across (·.a0) (·.a1), b.across (·.a2) (·.a3), b.across (·.b0) (·.b1),
   b.across (·.b2) (·.b3), b.across (·.c0) (·.c1), b.across (·.c2) (·.c3),
   b.across (·.d0) (·.d1), b.across (·.d2) (·.d3)⟩

/-- The mixture of two blocks. -/
def compress (b c : Block) : Block :=
  let r := b.xor c
  r.xor r.mixed.transposed.mixed.transposed

def words (b : Block) : List UInt64 :=
  b.squares.flatMap Square.words

def octets (b : Block) : List UInt8 :=
  b.squares.flatMap Square.octets

/-- The block of 1024 octets. -/
def ofOctets (octets : List UInt8) : Block :=
  ofSquares ((List.range 8).map fun i => .ofOctets ((octets.drop (128 * i)).take 128))

end Block

/-! ## Long digests -/

/-- Pieces of a long digest: the first halves of `n` digests of one another, and
a last one of `size` octets. -/
def pieces (size : Nat) : (n : Nat) → (last : List UInt8) → List UInt8
  | 0, last => Blake2b.hash size last
  | n + 1, last =>
      let next := Blake2b.hash 64 last
      next.take 32 ++ pieces size n next

/-- A digest of any size. -/
def longHash (size : Nat) (message : List UInt8) : List UInt8 :=
  let counted := lowestFirst 4 size ++ message
  if size ≤ 64 then Blake2b.hash size counted
  else
    let n := (size + 31) / 32 - 2
    pieces (size - 32 * n) n counted

/-- Octets after their number. -/
def counted (octets : List UInt8) : List UInt8 :=
  lowestFirst 4 octets.length ++ octets

/-- What the memory is filled from: the digest of all that goes into the result.
There is neither a secret nor anything else beside the password. -/
def seed (r : Recipe) (size : Nat) (password salt : List UInt8) : List UInt8 :=
  Blake2b.hash 64 <|
    [r.cost.lanes, size, r.cost.memory, r.cost.passes, r.version, r.variant.number].flatMap
        (lowestFirst 4) ++
      counted password ++ counted salt ++ counted [] ++ counted []

/-! ## Filling the memory -/

/-- The segment being filled. -/
structure Segment where
  pass : Nat
  slice : Nat
  lane : Nat

/-- The block of words that tell where blocks of a segment draw from, by their
position. -/
def positions (r : Recipe) (s : Segment) (counter : Nat) : Block :=
  let about := [s.pass, s.lane, s.slice, r.cost.lanes * r.cost.lane, r.cost.passes, r.variant.number,
    counter].map UInt64.ofNat
  let input := { Block.zero with s0 := .ofWords (about ++ List.replicate 9 0) }
  Block.zero.compress (Block.zero.compress input)

/-- For every block of a segment the word that tells where it draws from, if its
position does. -/
def draws (r : Recipe) (s : Segment) : List (Option UInt64) :=
  if r.variant.byPosition s.pass s.slice then
    (((List.range ((r.cost.segment + 127) / 128)).flatMap fun i =>
      (positions r s (i + 1)).words).take r.cost.segment).map some
  else List.replicate r.cost.segment none

/-- How many blocks the block at `index` of a segment may draw on in its own lane
or in another one. -/
def reach (c : Cost) (s : Segment) (index : Nat) (own : Bool) : Nat :=
  let whole := if s.pass = 0 then s.slice * c.segment else c.lane - c.segment
  if own then whole + index - 1 else if index = 0 then whole - 1 else whole

/-- The first block of a lane that may be drawn on. -/
def earliest (c : Cost) (s : Segment) : Nat :=
  if s.pass = 0 ∨ s.slice = 3 then 0 else (s.slice + 1) * c.segment

/-- The block that a word tells to draw on: later ones are likelier. -/
def source (c : Cost) (s : Segment) (index : Nat) (word : UInt64) : Nat :=
  let lane := if s.pass = 0 ∧ s.slice = 0 then s.lane else (word >>> 32).toNat % c.lanes
  let low := (word &&& 0xffffffff).toNat
  let size := reach c s index (lane == s.lane)
  let back := size * (low * low / 4294967296) / 4294967296
  lane * c.lane + (earliest c s + (size - 1 - back)) % c.lane

/-- The version in which a pass writes over the one before it; later ones mix
the two. -/
def overwriting : Nat := 16

/-- Fill the block at `index` of a segment. -/
def fillBlock (r : Recipe) (s : Segment) (memory : Array Block) (index : Nat)
    (draw : Option UInt64) : Array Block :=
  let c := r.cost
  let column := s.slice * c.segment + index
  let place := s.lane * c.lane + column
  let before := memory.getD (s.lane * c.lane + (column + c.lane - 1) % c.lane) .zero
  let made := before.compress (memory.getD (source c s index (draw.getD before.s0.a0)) .zero)
  let made :=
    if s.pass = 0 ∨ r.version = overwriting then made else made.xor (memory.getD place .zero)
  memory.setIfInBounds place made

/-- Fill a segment.  The first two blocks of a lane are there from the start. -/
def fillSegment (r : Recipe) (memory : Array Block) (s : Segment) : Array Block :=
  let first := if s.pass = 0 ∧ s.slice = 0 then 2 else 0
  (((draws r s).zipIdx).drop first).foldl (fun m d => fillBlock r s m d.2 d.1) memory

/-- The segments in the order in which they are filled. -/
def segments (c : Cost) (pass : Nat) : List Segment :=
  (List.range 4).flatMap fun slice => (List.range c.lanes).map fun lane => ⟨pass, slice, lane⟩

/-- Fill the memory once. -/
def fillPass (r : Recipe) (memory : Array Block) (pass : Nat) : Array Block :=
  (segments r.cost pass).foldl (fillSegment r) memory

/-- The memory with the first two blocks of every lane. -/
def prepared (c : Cost) (seed : List UInt8) : Array Block :=
  (List.range c.lanes).foldl
    (fun memory lane =>
      [0, 1].foldl
        (fun m column =>
          m.setIfInBounds (lane * c.lane + column)
            (.ofOctets (longHash 1024 (seed ++ lowestFirst 4 column ++ lowestFirst 4 lane))))
        memory)
    (Array.replicate (c.lanes * c.lane) .zero)

/-- The last blocks of all lanes in one. -/
def gathered (c : Cost) (memory : Array Block) : Block :=
  (List.range c.lanes).foldl
    (fun b lane => b.xor (memory.getD (lane * c.lane + c.lane - 1) .zero)) .zero

/-- The digest of a password with a salt, `size` octets long. -/
def hash (r : Recipe) (size : Nat) (password salt : List UInt8) : List UInt8 :=
  let start := prepared r.cost (seed r size password salt)
  let filled := (List.range r.cost.passes).foldl (fillPass r) start
  longHash size (gathered r.cost filled).octets

end GeoRegistry.Digest.Argon2
