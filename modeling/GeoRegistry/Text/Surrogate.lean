/-
# Text.Surrogate -- halves of characters, on their own

A JSON text can spell half of a surrogate pair without the other half.  Such a
half is no character, yet texts keep it and hand it on; only when the octets of
the text are wanted does it do harm.  In a text it is held by a stand-in: the
character that lies `shift` above it, in a block of the thirteenth plane that has
no characters of its own.
-/
import GeoRegistry.Text.Digit

namespace GeoRegistry.Text

set_option autoImplicit false

namespace Surrogate

/-- A number is that of a first half. -/
def isHigh (n : Nat) : Bool := 0xD800 ≤ n && n ≤ 0xDBFF

/-- A number is that of a second half. -/
def isLow (n : Nat) : Bool := 0xDC00 ≤ n && n ≤ 0xDFFF

/-- The character of two halves. -/
def pair (high low : Nat) : Char :=
  Char.ofNat (0x10000 + (high - 0xD800) * 0x400 + (low - 0xDC00))

/-- How far a stand-in lies above what it stands for. -/
def shift : Nat := 0xD0000

/-- The character of a number, or its stand-in. -/
def charOf (n : Nat) : Char :=
  if isHigh n || isLow n then Char.ofNat (n + shift) else Char.ofNat n

/-- The half that a character stands in for. -/
def half? (c : Char) : Option Nat :=
  let n := c.toNat - shift
  if shift ≤ c.toNat ∧ (isHigh n || isLow n) then some n else none

def isStandIn (c : Char) : Bool :=
  (half? c).isSome

end Surrogate

/-- Why a text has no octets: the halves of characters that stand first in it. -/
structure Unencodable where
  /-- How many characters stand before them. -/
  position : Nat
  /-- The first of them. -/
  half : Nat
  /-- How many there are in a row. -/
  count : Nat
  deriving DecidableEq, Repr

/-- The fault of a text that has no octets. -/
def unencodable? (s : String) : Option Unencodable :=
  let before := s.toList.takeWhile (!Surrogate.isStandIn ·)
  match s.toList.drop before.length with
  | [] => none
  | c :: rest =>
      (Surrogate.half? c).map fun half =>
        ⟨before.length, half, 1 + (rest.takeWhile Surrogate.isStandIn).length⟩

/-- What is said about characters in a row that an encoding does not have: the
number of the first, how many stand before it, and how many there are. -/
def unencodableMessage (encoding : String) (first position count : Nat) (reason : String) :
    String :=
  "'" ++ encoding ++ "' codec can't encode character" ++
    (if count = 1 then
      " '" ++ String.ofList (escapedCode first) ++ "' in position " ++ toString position
    else "s in position " ++ toString position ++ "-" ++ toString (position + count - 1)) ++
    ": " ++ reason

/-- What is said about the fault. -/
def Unencodable.message (u : Unencodable) : String :=
  unencodableMessage "utf-8" u.half u.position u.count "surrogates not allowed"

end GeoRegistry.Text
