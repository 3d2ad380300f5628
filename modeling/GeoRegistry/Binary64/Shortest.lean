/-
# Binary64.Shortest -- the fewest digits that read back

`shortest` searches decimal grids from one digit up to seventeen for a number
that reads back as the given one, and takes the nearer of the two grid
neighbours when both do.  `text` lays the digits out: positional from 0.0001
below 10^16, always with a point, otherwise with a signed exponent of at least
two digits.
-/
import GeoRegistry.Binary64

namespace GeoRegistry.Binary64

set_option autoImplicit false

/-- The greatest power of ten not above a positive fraction. -/
def leadingPower (num den : Nat) : Int :=
  let p : Int := (decimalLength num : Int) - decimalLength den
  if den * Nat.pow 10 p.toNat ≤ num * Nat.pow 10 (-p).toNat then p else p - 1

/-- The neighbours of `num / den` on the grid `10 ^ scale`, nearer first. -/
def gridNeighbours (num den : Nat) (scale : Int) : List Nat :=
  let n := num * Nat.pow 10 (-scale).toNat
  let d := den * Nat.pow 10 scale.toNat
  let q := n / d
  let r := n % d
  if r = 0 then [q]
  else if 2 * r < d then [q, q + 1]
  else if d < 2 * r then [q + 1, q]
  else if q % 2 = 0 then [q, q + 1] else [q + 1, q]

/-- The digits and scale of the shortest decimal that reads back as the
magnitude `m * 2 ^ e`. -/
def shortest (m : Nat) (e : Int) : Nat × Int :=
  let (num, den) := magnitude m e
  let top := leadingPower num den
  let tries := (List.range 17).flatMap fun (k : Nat) =>
    let scale := top - k
    (gridNeighbours num den scale).map fun digits => (digits, scale)
  (tries.find? fun t => ofDecimal false t.1 t.2 = .finite false m e).getD (num, 0)

/-- Digits without trailing zeros, and the place of the point counted from the
first of them. -/
def significant (digits : Nat) (scale : Int) : List Char × Int :=
  let all := Nat.toDigits 10 digits
  ((all.reverse.dropWhile (· == '0')).reverse, scale + all.length)

/-- Lay out significant digits around a decimal point. -/
def layout (digits : List Char) (point : Int) : List Char :=
  if point ≤ -4 ∨ 16 < point then
    let power := point - 1
    let fraction := if digits.length ≤ 1 then [] else '.' :: digits.drop 1
    let size := Nat.toDigits 10 power.natAbs
    digits.take 1 ++ fraction ++ ['e', if power < 0 then '-' else '+'] ++
      List.replicate (2 - size.length) '0' ++ size
  else if point ≤ 0 then
    '0' :: '.' :: List.replicate (-point).toNat '0' ++ digits
  else if digits.length ≤ point.toNat then
    digits ++ List.replicate (point.toNat - digits.length) '0' ++ ['.', '0']
  else
    digits.take point.toNat ++ '.' :: digits.drop point.toNat

/-- The spellings of the two kinds of number that have no digits. -/
structure Special where
  nan : String
  infinity : String

/-- The text of a number. -/
def text (special : Special) : Binary64 → String
  | .nan => special.nan
  | .infinite negative => (if negative then "-" else "") ++ special.infinity
  | .finite negative m e =>
      let magnitude :=
        if m = 0 then ['0', '.', '0']
        else
          let (digits, scale) := shortest m e
          let (digits, point) := significant digits scale
          layout digits point
      String.ofList (if negative then '-' :: magnitude else magnitude)

/-- In prose, `nan` and `inf`. -/
def plainText (x : Binary64) : String :=
  x.text ⟨"nan", "inf"⟩

end GeoRegistry.Binary64
