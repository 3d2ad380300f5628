/-
# Text.Ascii -- texts of the first 128 characters

A text has octets in this encoding when it has no other characters.
-/
import GeoRegistry.Text.Surrogate

namespace GeoRegistry.Text

set_option autoImplicit false

/-- A character is one of the first 128. -/
def isAscii (c : Char) : Bool := c.toNat < 128

/-- Why a text has no octets in ASCII: the other characters that stand first in
it. -/
structure NotAscii where
  /-- How many characters stand before them. -/
  position : Nat
  /-- The number of the first of them. -/
  first : Nat
  /-- How many there are in a row. -/
  count : Nat
  deriving DecidableEq, Repr

/-- The fault of a text with other characters. -/
def notAscii? (s : String) : Option NotAscii :=
  let before := s.toList.takeWhile isAscii
  match s.toList.drop before.length with
  | [] => none
  | c :: rest =>
      some ⟨before.length, (Surrogate.half? c).getD c.toNat,
        1 + (rest.takeWhile (!isAscii ·)).length⟩

/-- What is said about the fault. -/
def NotAscii.message (f : NotAscii) : String :=
  unencodableMessage "ascii" f.first f.position f.count "ordinal not in range(128)"

end GeoRegistry.Text
