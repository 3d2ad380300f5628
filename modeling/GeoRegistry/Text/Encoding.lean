/-
# Text.Encoding -- which characters octets are meant as

A JSON document begins with two ASCII characters, or is one.  So the zeros among
its first octets show how many octets a character has, and in which order they
stand.  Where no zeros show anything it is UTF-8.
-/
import GeoRegistry.Text.Surrogate
import GeoRegistry.Text.Utf8

namespace GeoRegistry.Text

set_option autoImplicit false

/-- In which order the octets of a number stand. -/
inductive Order where
  | mostFirst
  | leastFirst
  deriving DecidableEq, Repr

inductive Encoding where
  | utf8
  | utf16 (order : Order)
  | utf32 (order : Order)
  deriving DecidableEq, Repr

namespace Encoding

/-- The encoding that the first octets of a document show. -/
def ofDocument : List UInt8 → Encoding
  | [0, _] => .utf16 .mostFirst
  | [_, 0] => .utf16 .leastFirst
  | a :: b :: c :: d :: _ =>
      if a = 0 then (if b = 0 then .utf32 .mostFirst else .utf16 .mostFirst)
      else if b = 0 then
        (if c = 0 ∧ d = 0 then .utf32 .leastFirst else .utf16 .leastFirst)
      else .utf8
  | _ => .utf8

/-- The numbers of octets taken two at a time, unless one is left over. -/
def pairs? : List UInt8 → Option (List (Nat × Nat))
  | [] => some []
  | [_] => none
  | a :: b :: rest => (pairs? rest).map ((a.toNat, b.toNat) :: ·)

/-- The number of two digits of the given size. -/
def join (order : Order) (size : Nat) (digits : Nat × Nat) : Nat :=
  match order with
  | .mostFirst => digits.1 * size + digits.2
  | .leastFirst => digits.2 * size + digits.1

/-- The numbers of 16 bits that octets stand for. -/
def units16? (order : Order) (octets : List UInt8) : Option (List Nat) :=
  (pairs? octets).map (·.map (join order 256))

/-- Numbers of 16 bits taken two at a time, unless one is left over. -/
def joined? (order : Order) : List Nat → Option (List Nat)
  | [] => some []
  | [_] => none
  | a :: b :: rest => (joined? order rest).map (join order 65536 (a, b) :: ·)

/-- The numbers of 32 bits that octets stand for. -/
def units32? (order : Order) (octets : List UInt8) : Option (List Nat) :=
  (units16? order octets).bind (joined? order)

/-- The characters of 16-bit numbers; halves that belong together are joined. -/
def ofUnits16 : List Nat → List Char
  | [] => []
  | [n] => [Surrogate.charOf n]
  | high :: low :: rest =>
      if Surrogate.isHigh high && Surrogate.isLow low then
        Surrogate.pair high low :: ofUnits16 rest
      else Surrogate.charOf high :: ofUnits16 (low :: rest)

/-- The character of a 32-bit number. -/
def ofUnit32? (n : Nat) : Option Char :=
  if n ≤ 0x10FFFF then some (Surrogate.charOf n) else none

/-- The text that octets are meant as. -/
def decode? (e : Encoding) (octets : List UInt8) : Option String :=
  match e with
  | .utf8 => Utf8.decode? octets
  | .utf16 order => (units16? order octets).map fun units => String.ofList (ofUnits16 units)
  | .utf32 order =>
      ((units32? order octets).bind fun units => units.mapM ofUnit32?).map String.ofList

end Encoding

end GeoRegistry.Text
