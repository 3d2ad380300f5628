/-
# Text.WholeNumber -- whole numbers as forms accept them

A whole number is plain digits behind an optional minus.  A form is more patient:
it lets a whole number have white space around it, a plus, zeros in front, a
fraction of zeros and single underscores between its characters.  `cleaned?`
takes all of that off, and what is left must be a plain number.  Zeros are taken
off before the rest is looked at, so a number with its minus may stand behind
them.  A text that starts with too many digits is refused for its length,
whatever follows them; one that has too many when it is cleaned is no number.
-/
import GeoRegistry.Text.Blank
import GeoRegistry.Text.IntegerLiteral

namespace GeoRegistry.Text

set_option autoImplicit false

namespace WholeNumber

/-- A character that zeros may stand in front of without counting. -/
def isSignificant (c : Char) : Bool :=
  c = '-' || (c.isDigit && c != '0')

/-- What is left behind leading zeros, the last of which is given.  It stays when
no significant character follows. -/
def behindZeros? (zero : Char) : List Char → Option (List Char)
  | [] => some [zero]
  | c :: rest =>
      if c = '0' ∨ c = '_' then behindZeros? c rest
      else if isSignificant c then some (c :: rest)
      else if c = '.' then some (zero :: c :: rest)
      else none

/-- Take leading zeros off, and underscores among them. -/
def withoutZeros? : List Char → Option (List Char)
  | [] => none
  | c :: rest =>
      if c = '0' then behindZeros? c rest
      else if isSignificant c then some (c :: rest)
      else none

/-- Take off the zeros in front of an unsigned number, which has no minus behind
them. -/
def unsigned? (cs : List Char) : Option (List Char) := do
  let rest ← withoutZeros? cs
  if rest.head? = some '-' then none else some rest

/-- Take off a plus and the zeros in front of a number.  A number has one sign. -/
def leading? : List Char → Option (List Char)
  | '+' :: '-' :: _ => none
  | '+' :: rest => withoutZeros? rest
  | '-' :: rest => (unsigned? rest).map ('-' :: ·)
  | cs => withoutZeros? cs

/-- Take a fraction off, which must be made of zeros. -/
def withoutFraction? (cs : List Char) : Option (List Char) :=
  let whole := cs.takeWhile (· != '.')
  match cs.drop whole.length with
  | [] => some whole
  | _ :: zeros => if !zeros.isEmpty && zeros.all (· == '0') then some whole else none

/-- The number without all that a form puts up with. -/
def cleaned? (s : String) : Option (List Char) := do
  withoutSeparators? (← withoutFraction? (← leading? (trimBy isWhiteSpace s.toList)))

/-- Take off a minus. -/
def withoutMinus : List Char → List Char
  | '-' :: rest => rest
  | cs => cs

/-- The integer that plain digits stand for, without zeros in front. -/
def plain? (cs : List Char) : Option Int := do
  match ← (withoutMinus cs).mapM asciiDigit? with
  | [] => none
  | [0] => some 0
  | d :: ds =>
      if d = 0 || maxDigits ≤ ds.length then none
      else some (signed (cs.head? = some '-') (ofDigits (d :: ds)))

/-- How many digits the text starts with, not counting a minus; none count when a
zero comes first. -/
def digitsAhead (cs : List Char) : Nat :=
  let digits := (withoutMinus cs).takeWhile Char.isDigit
  if digits.head? = some '0' then 0 else digits.length

/-- Where the integers of 64 bits end: two to the power of 63. -/
def wordBound : Int := 9223372036854775808

/-- An integer has 64 bits. -/
def isWord (n : Int) : Bool :=
  -wordBound ≤ n && n < wordBound

/-- Read a whole number. -/
def read (s : String) : Except IntegerFault Int :=
  let ahead := digitsAhead s.toList
  if maxDigits < ahead then .error (.tooLong ahead)
  else
    match (cleaned? s).bind plain? with
    | some n => .ok n
    | none => .error .malformed

end WholeNumber

end GeoRegistry.Text
