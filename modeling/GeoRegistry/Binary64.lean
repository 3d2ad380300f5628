/-
# Binary64 -- double-precision numbers, exact and rounded once

A finite number is `mantissa * 2 ^ exponent` with a sign; zero has a sign too.
Every operation computes exactly in `Nat` and rounds once, to nearest, a half to
the even neighbour (`ofRatio`).  `ofRatio` writes each number in one form: 53
bits of mantissa, fewer only at the least exponent.
-/

namespace GeoRegistry

set_option autoImplicit false

/-- A double-precision number. -/
inductive Binary64 where
  | nan
  | infinite (negative : Bool)
  | finite (negative : Bool) (mantissa : Nat) (exponent : Int)
  deriving DecidableEq, Repr, Inhabited

namespace Binary64

/-- The exponent of the least positive number, and of zero. -/
def minExponent : Int := -1074

/-- The exponent of the greatest finite number. -/
def maxExponent : Int := 971

def zero (negative : Bool) : Binary64 :=
  .finite negative 0 minExponent

/-! ## Rounding -/

/-- The quotient rounded to the nearest natural number, a half to the even one. -/
def roundHalfEven (num den : Nat) : Nat :=
  let q := num / den
  let twice := 2 * (num % den)
  if twice < den then q
  else if den < twice then q + 1
  else if q % 2 = 0 then q else q + 1

/-- The fraction `num / den` divided by `2 ^ e`. -/
def scaled (num den : Nat) (e : Int) : Nat × Nat :=
  (num * Nat.pow 2 (-e).toNat, den * Nat.pow 2 e.toNat)

/-- The exponent at which a positive fraction has a 53-bit integer part, or the
least exponent when that is greater. -/
def exponentOf (num den : Nat) : Int :=
  let high : Int := (num.log2 : Int) - den.log2 - 52
  let (n, d) := scaled num den high
  max (if d * Nat.pow 2 52 ≤ n then high else high - 1) minExponent

/-- The number nearest to a fraction. -/
def ofRatio (negative : Bool) (num den : Nat) : Binary64 :=
  if num = 0 ∨ den = 0 then zero negative
  else
    let e := exponentOf num den
    let (n, d) := scaled num den e
    let m := roundHalfEven n d
    let (m, e) := if m = Nat.pow 2 53 then (Nat.pow 2 52, e + 1) else (m, e)
    if maxExponent < e then .infinite negative
    else if m = 0 then zero negative
    else .finite negative m e

/-- The number nearest to an integer. -/
def ofInt (n : Int) : Binary64 :=
  ofRatio (n < 0) n.natAbs 1

/-- How many decimal digits a natural number is written with. -/
def decimalLength (n : Nat) : Nat :=
  (Nat.toDigits 10 n).length

/-- The number nearest to `digits * 10 ^ scale`.  Magnitudes far outside the
range are settled by their length alone, so no huge power is computed. -/
def ofDecimal (negative : Bool) (digits : Nat) (scale : Int) : Binary64 :=
  let magnitude := scale + decimalLength digits
  if digits = 0 then zero negative
  else if 400 < magnitude then .infinite negative
  else if magnitude < -400 then zero negative
  else ofRatio negative (digits * Nat.pow 10 scale.toNat) (Nat.pow 10 (-scale).toNat)

/-! ## Observations -/

/-- The magnitude of a finite number as a fraction. -/
def magnitude (mantissa : Nat) (exponent : Int) : Nat × Nat :=
  (mantissa * Nat.pow 2 exponent.toNat, Nat.pow 2 (-exponent).toNat)

/-- A finite number without a fractional part, as an integer. -/
def whole? : Binary64 → Option Int
  | .finite negative m e =>
      let (n, d) := magnitude m e
      if n % d = 0 then some (if negative then -((n / d : Nat) : Int) else ((n / d : Nat) : Int))
      else none
  | _ => none

/-- A finite number without its fractional part. -/
def truncate? : Binary64 → Option Int
  | .finite negative m e =>
      let (n, d) := magnitude m e
      some (if negative then -((n / d : Nat) : Int) else ((n / d : Nat) : Int))
  | _ => none

/-- The greatest integer not above a finite number. -/
def floor? : Binary64 → Option Int
  | .finite negative m e =>
      let (n, d) := magnitude m e
      some (if negative then -(((n + d - 1) / d : Nat) : Int) else ((n / d : Nat) : Int))
  | _ => none

def isFinite : Binary64 → Bool
  | .finite .. => true
  | _ => false

def isZero : Binary64 → Bool
  | .finite _ 0 _ => true
  | _ => false

/-- A number lies further from zero than a natural number. -/
def exceeds (x : Binary64) (bound : Nat) : Bool :=
  match x with
  | .finite _ m e =>
      let (n, d) := magnitude m e
      decide (bound * d < n)
  | .infinite _ => true
  | .nan => false

/-- How far a finite number lies above its floor; one when it lies so little
below an integer that no number tells the two apart. -/
def aboveFloor : Binary64 → Binary64
  | .finite negative m e =>
      let (n, d) := magnitude m e
      ofRatio false (if negative && n % d != 0 then d - n % d else n % d) d
  | x => x

/-- How often a part of one goes into the magnitude of a finite number, when one
has `count` of them.  It is rounded twice: the product to the nearest number and
that to the nearest integer, a half away from zero. -/
def parts (count : Nat) : Binary64 → Nat
  | .finite _ m e =>
      let (n, d) := magnitude m e
      match ofRatio false (n * count) d with
      | .finite _ m e =>
          let (n, d) := magnitude m e
          (2 * n + d) / (2 * d)
      | _ => 0
  | _ => 0

end Binary64

end GeoRegistry
