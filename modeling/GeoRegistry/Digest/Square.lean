/-
# Digest.Square -- sixteen words, mixed by columns and diagonals

Sixteen words of 64 bits stand in four rows of four.  A round takes the words
of every column, and then those of every diagonal, through one and the same
mixing of four words.  What is left open is how two words are summed, and which
words of a message are added on the way.
-/

namespace GeoRegistry.Digest

set_option autoImplicit false

structure Square where
  a0 : UInt64
  a1 : UInt64
  a2 : UInt64
  a3 : UInt64
  b0 : UInt64
  b1 : UInt64
  b2 : UInt64
  b3 : UInt64
  c0 : UInt64
  c1 : UInt64
  c2 : UInt64
  c3 : UInt64
  d0 : UInt64
  d1 : UInt64
  d2 : UInt64
  d3 : UInt64
  deriving DecidableEq

namespace Square

def zero : Square :=
  ⟨0, 0, 0, 0, 0, 0, 0, 0, 0, 0, 0, 0, 0, 0, 0, 0⟩

/-- Sixteen words as a square. -/
def ofWords : List UInt64 → Square
  | [a0, a1, a2, a3, b0, b1, b2, b3, c0, c1, c2, c3, d0, d1, d2, d3] =>
      ⟨a0, a1, a2, a3, b0, b1, b2, b3, c0, c1, c2, c3, d0, d1, d2, d3⟩
  | _ => zero

def words (s : Square) : List UInt64 :=
  [s.a0, s.a1, s.a2, s.a3, s.b0, s.b1, s.b2, s.b3, s.c0, s.c1, s.c2, s.c3, s.d0, s.d1, s.d2, s.d3]

/-- The words of two squares, bit by bit one or the other but not both. -/
def xor (s t : Square) : Square :=
  ⟨s.a0 ^^^ t.a0, s.a1 ^^^ t.a1, s.a2 ^^^ t.a2, s.a3 ^^^ t.a3,
   s.b0 ^^^ t.b0, s.b1 ^^^ t.b1, s.b2 ^^^ t.b2, s.b3 ^^^ t.b3,
   s.c0 ^^^ t.c0, s.c1 ^^^ t.c1, s.c2 ^^^ t.c2, s.c3 ^^^ t.c3,
   s.d0 ^^^ t.d0, s.d1 ^^^ t.d1, s.d2 ^^^ t.d2, s.d3 ^^^ t.d3⟩

/-! ## Mixing -/

/-- Four words that are mixed with one another. -/
structure Four where
  a : UInt64
  b : UInt64
  c : UInt64
  d : UInt64

@[inline]
def rotated (x : UInt64) (n : UInt64) : UInt64 :=
  (x >>> n) ||| (x <<< (64 - n))

/-- Mix four words with two words of a message. -/
@[inline]
def Four.mixed (sum : UInt64 → UInt64 → UInt64) (x y : UInt64) (f : Four) : Four :=
  let a := sum f.a f.b + x
  let d := rotated (f.d ^^^ a) 32
  let c := sum f.c d
  let b := rotated (f.b ^^^ c) 24
  let a := sum a b + y
  let d := rotated (d ^^^ a) 16
  let c := sum c d
  let b := rotated (b ^^^ c) 63
  ⟨a, b, c, d⟩

/-- Mix the four columns, with the first half of a message. -/
@[inline]
def columns (sum : UInt64 → UInt64 → UInt64) (s m : Square) : Square :=
  let p := Four.mixed sum m.a0 m.a1 ⟨s.a0, s.b0, s.c0, s.d0⟩
  let q := Four.mixed sum m.a2 m.a3 ⟨s.a1, s.b1, s.c1, s.d1⟩
  let r := Four.mixed sum m.b0 m.b1 ⟨s.a2, s.b2, s.c2, s.d2⟩
  let t := Four.mixed sum m.b2 m.b3 ⟨s.a3, s.b3, s.c3, s.d3⟩
  ⟨p.a, q.a, r.a, t.a, p.b, q.b, r.b, t.b, p.c, q.c, r.c, t.c, p.d, q.d, r.d, t.d⟩

/-- Mix the four diagonals, with the second half of a message. -/
@[inline]
def diagonals (sum : UInt64 → UInt64 → UInt64) (s m : Square) : Square :=
  let p := Four.mixed sum m.c0 m.c1 ⟨s.a0, s.b1, s.c2, s.d3⟩
  let q := Four.mixed sum m.c2 m.c3 ⟨s.a1, s.b2, s.c3, s.d0⟩
  let r := Four.mixed sum m.d0 m.d1 ⟨s.a2, s.b3, s.c0, s.d1⟩
  let t := Four.mixed sum m.d2 m.d3 ⟨s.a3, s.b0, s.c1, s.d2⟩
  ⟨p.a, q.a, r.a, t.a, t.b, p.b, q.b, r.b, r.c, t.c, p.c, q.c, q.d, r.d, t.d, p.d⟩

/-- A round with a message. -/
@[inline]
def round (sum : UInt64 → UInt64 → UInt64) (s m : Square) : Square :=
  (s.columns sum m).diagonals sum m

end Square

/-! ## Octets -/

/-- The `n` lowest octets of a number, lowest first. -/
def lowestFirst : (n value : Nat) → List UInt8
  | 0, _ => []
  | n + 1, value => .ofNat value :: lowestFirst n (value / 256)

/-- The number of octets, lowest first. -/
def ofLowestFirst (octets : List UInt8) : Nat :=
  octets.foldr (fun b n => b.toNat + 256 * n) 0

namespace Square

/-- The square of 128 octets. -/
def ofOctets (octets : List UInt8) : Square :=
  ofWords ((List.range 16).map fun i => .ofNat (ofLowestFirst ((octets.drop (8 * i)).take 8)))

def octets (s : Square) : List UInt8 :=
  s.words.flatMap fun w => lowestFirst 8 w.toNat

end Square

end GeoRegistry.Digest
