/-
# Text.Blank -- which characters are blank, and trimming them

Two classes are in use.  `isWhiteSpace` is the Unicode property White_Space;
it is what surrounds a number.  `isBlank` adds the four information separators
U+001C to U+001F; it is what surrounds a name.  Zero-width characters (U+200B,
U+FEFF, U+180E) are in neither.
-/

namespace GeoRegistry.Text

set_option autoImplicit false

/-- A code point lies in one of the closed ranges. -/
def inRanges (ranges : List (Nat × Nat)) (n : Nat) : Bool :=
  ranges.any fun r => r.1 ≤ n && n ≤ r.2

/-- The ranges of the Unicode property White_Space. -/
def whiteSpaceRanges : List (Nat × Nat) :=
  [(0x09, 0x0D), (0x20, 0x20), (0x85, 0x85), (0xA0, 0xA0), (0x1680, 0x1680),
   (0x2000, 0x200A), (0x2028, 0x2029), (0x202F, 0x202F), (0x205F, 0x205F), (0x3000, 0x3000)]

/-- The Unicode property White_Space. -/
def isWhiteSpace (c : Char) : Bool :=
  inRanges whiteSpaceRanges c.toNat

/-- White_Space and the four information separators. -/
def isBlank (c : Char) : Bool :=
  isWhiteSpace c || inRanges [(0x1C, 0x1F)] c.toNat

/-- Drop the characters of a class from both ends. -/
def trimBy (drop : Char → Bool) (cs : List Char) : List Char :=
  ((cs.dropWhile drop).reverse.dropWhile drop).reverse

/-- Drop blanks from both ends. -/
def trimBlank (s : String) : String :=
  String.ofList (trimBy isBlank s.toList)

/-- Everything after the last occurrence of a character; the whole list when it
does not occur. -/
def afterLast (sep : Char) (cs : List Char) : List Char :=
  (cs.reverse.takeWhile (· != sep)).reverse

end GeoRegistry.Text
