/-
# Text.IntegerLiteral -- integers as people write them

An integer literal is optional white space, an optional sign, decimal digits of
any script with single underscores between them, and optional white space.  One
with more than `maxDigits` digits is refused: reading it would take time that
grows with the square of its length.
-/
import GeoRegistry.Text.Blank
import GeoRegistry.Text.Digit

namespace GeoRegistry.Text

set_option autoImplicit false

/-- The longest run of digits that is read or written as an integer. -/
def maxDigits : Nat := 4300

/-- The values of the digits of a run with single inner underscores.
`pending` says that a digit must follow: at the start and after an underscore. -/
def digitRun? (digit? : Char → Option Nat) : (pending : Bool) → List Char → Option (List Nat)
  | pending, [] => if pending then none else some []
  | pending, c :: rest =>
      if c = '_' then
        if pending then none else digitRun? digit? true rest
      else
        match digit? c with
        | some d => (digitRun? digit? false rest).map (d :: ·)
        | none => none

/-- The number that a list of decimal digits stands for, most significant first. -/
def ofDigits (digits : List Nat) : Nat :=
  digits.foldl (fun n d => 10 * n + d) 0

/-- Split an optional sign off; `true` is a minus. -/
def splitSign : List Char → Bool × List Char
  | '-' :: rest => (true, rest)
  | '+' :: rest => (false, rest)
  | cs => (false, cs)

/-- A natural number with a sign. -/
def signed (negative : Bool) (n : Nat) : Int :=
  if negative then -(n : Int) else n

/-- Take out underscores that separate, when none stands at an end or beside
another one. -/
def withoutSeparators? (cs : List Char) : Option (List Char) :=
  if cs.head? = some '_' ∨ cs.getLast? = some '_' ∨ (cs.zip cs.tail).contains ('_', '_') then none
  else some (cs.filter (· != '_'))

/-- Why a text is no integer literal. -/
inductive IntegerFault where
  | malformed
  /-- More digits than `maxDigits`; how many there are. -/
  | tooLong (digits : Nat)
  deriving DecidableEq, Repr

/-- What is said about a number with more than `maxDigits` digits. -/
def excessDigits (about : String) : String :=
  "Exceeds the limit (" ++ toString maxDigits ++ " digits) for integer string conversion" ++
    about ++ "; use sys.set_int_max_str_digits() to increase the limit"

/-- What is said about a number with too many digits to be read. -/
def tooManyDigits (digits : Nat) : String :=
  excessDigits (": value has " ++ toString digits ++ " digits")

/-- What is said about a number with too many digits to be shown. -/
def tooManyDigitsToShow : String :=
  excessDigits ""

/-- Read an integer literal. -/
def readInteger (cs : List Char) : Except IntegerFault Int :=
  let (negative, body) := splitSign (trimBy isWhiteSpace cs)
  match digitRun? decimalDigit? true body with
  | none => .error .malformed
  | some digits =>
      if digits.length ≤ maxDigits then .ok (signed negative (ofDigits digits))
      else .error (.tooLong digits.length)

/-- Read an integer literal, if the text is one. -/
def integer? (s : String) : Option Int :=
  (readInteger s.toList).toOption

end GeoRegistry.Text
