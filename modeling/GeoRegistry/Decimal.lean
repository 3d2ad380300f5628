/-
# Decimal -- decimal numbers with their digits kept

`1.50` and `1.5` are equal numbers and different decimals.  A finite decimal is
`coefficient * 10 ^ exponent` with a sign.  `text` writes it back as it was read
unless its exponent is positive or it is smaller than a millionth, when it is
written with an exponent.  What is no number has a sign too, may be one that must
not be computed with, and carries a number that says where it comes from.
-/
import GeoRegistry.Binary64
import GeoRegistry.Text.IntegerLiteral

namespace GeoRegistry

set_option autoImplicit false

inductive Decimal where
  | nan (negative signaling : Bool) (origin : Nat)
  | infinite (negative : Bool)
  | finite (negative : Bool) (coefficient : Nat) (exponent : Int)
  deriving DecidableEq, Repr, Inhabited

namespace Decimal

open Text

/-! ## Reading -/

/-- The values of ASCII digits, if a text has no other characters. -/
def digits? (cs : List Char) : Option (List Nat) :=
  cs.mapM asciiDigit?

/-- The exponent part of a decimal text: nothing, or `e`, an optional sign and
digits. -/
def exponentPart? : List Char → Option Int
  | [] => some 0
  | c :: rest =>
      if c = 'e' ∨ c = 'E' then
        let (negative, body) := splitSign rest
        (digits? body).bind fun ds =>
          if ds.isEmpty then none else some (signed negative (ofDigits ds))
      else none

/-- Digits around an optional point, at least one of them, then an optional
exponent. -/
def unsigned? (negative : Bool) (cs : List Char) : Option Decimal :=
  let number := cs.takeWhile fun c => c != 'e' && c != 'E'
  let before := number.takeWhile (· != '.')
  let after := (number.drop before.length).drop 1
  match digits? before, digits? after, exponentPart? (cs.drop number.length) with
  | some ds, some fs, some e =>
      if ds.isEmpty && fs.isEmpty then none
      else some (.finite negative (ofDigits (ds ++ fs)) (e - fs.length))
  | _, _, _ => none

/-- Read a number without separators: an optional sign, then digits with an
optional point and exponent, or one of the words `inf`, `infinity` and `nan` in
any case. -/
def ofPlain? (cs : List Char) : Option Decimal :=
  let (negative, body) := splitSign cs
  let word := String.ofList (body.map Char.toLower)
  if word = "nan" then some (.nan negative false 0)
  else if word = "inf" ∨ word = "infinity" then some (.infinite negative)
  else unsigned? negative body

/-- Read a number as people write it: with white space around it, or with
underscores that separate its characters. -/
def ofText? (s : String) : Option Decimal :=
  (ofPlain? (trimBy isWhiteSpace s.toList)).orElse fun _ =>
    (withoutSeparators? s.toList).bind ofPlain?

/-- Read what is no number: a sign, `nan` or `snan` in any case, and digits. -/
def ofNan? (cs : List Char) : Option Decimal :=
  let (negative, body) := splitSign (trimBy isWhiteSpace cs)
  let body := body.map Char.toLower
  let signaling := body.head? = some 's'
  let body := if signaling then body.drop 1 else body
  if "nan".toList.isPrefixOf body then
    (digits? (body.drop 3)).map fun ds => .nan negative signaling (ofDigits ds)
  else none

/-- Read a decimal as programs exchange it. -/
def ofExchange? (s : String) : Option Decimal :=
  (ofNan? s.toList).orElse fun _ => ofText? s

/-! ## Conversions -/

/-- The nearest double-precision number. -/
def toBinary64 : Decimal → Binary64
  | .nan .. => .nan
  | .infinite negative => .infinite negative
  | .finite negative c e => .ofDecimal negative c e

/-- The part of a finite decimal before the point, and whether anything is lost. -/
def integerPart? : Decimal → Option (Int × Bool)
  | .finite negative c e =>
      if 0 ≤ e then some (signed negative (c * Nat.pow 10 e.toNat), false)
      else
        let d := if Binary64.decimalLength c < (-e).toNat then c + 1 else Nat.pow 10 (-e).toNat
        some (signed negative (c / d), c % d != 0)
  | _ => none

def isZero : Decimal → Bool
  | .finite _ 0 _ => true
  | _ => false

/-! ## Writing -/

/-- The text of a decimal, digits kept. -/
def text : Decimal → String
  | .nan negative signaling origin =>
      (if negative then "-" else "") ++ (if signaling then "sNaN" else "NaN") ++
        (if origin = 0 then "" else toString origin)
  | .infinite negative => (if negative then "-" else "") ++ "Infinity"
  | .finite negative c e =>
      let digits := Nat.toDigits 10 c
      let point := e + digits.length
      let magnitude :=
        if e ≤ 0 ∧ -6 < point then
          if point ≤ 0 then '0' :: '.' :: List.replicate (-point).toNat '0' ++ digits
          else if e = 0 then digits
          else digits.take point.toNat ++ '.' :: digits.drop point.toNat
        else
          let power := point - 1
          digits.take 1 ++ (if digits.length ≤ 1 then [] else '.' :: digits.drop 1) ++
            ['E', if power < 0 then '-' else '+'] ++ Nat.toDigits 10 power.natAbs
      String.ofList (if negative then '-' :: magnitude else magnitude)

end Decimal

end GeoRegistry
