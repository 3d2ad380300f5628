/-
# Integral -- the integer a cell stands for

Truth values are zero and one, numbers lose their fraction, texts are integer
literals, and an identifier is its digits read as one number.  A count that the
database answers with may also be missing, which means zero.
-/
import GeoRegistry.Failure
import GeoRegistry.Text.Quoted
import GeoRegistry.Text.IntegerLiteral

namespace GeoRegistry

set_option autoImplicit false

namespace Cell

open Text

/-- The most characters of a quoted text that a complaint shows. -/
def shownCharacters : Nat := 200

/-- What is said about a text that is no integer literal. -/
def literalFailure (s : String) : IntegerFault → Failure
  | .malformed =>
      .badValue ("invalid literal for int() with base 10: " ++
        String.ofList ((Text.quote s).toList.take shownCharacters))
  | .tooLong digits => .badValue (tooManyDigits digits)

/-- The integer a cell stands for. -/
def integer : Cell → Except Failure Int
  | .bool b => .ok (if b then 1 else 0)
  | .int n => .ok n
  | .float x =>
      match x, x.truncate? with
      | _, some n => .ok n
      | .infinite _, none => .error (.overflow "cannot convert float infinity to integer")
      | _, none => .error (.badValue "cannot convert float NaN to integer")
  | .decimal d =>
      match d, d.integerPart? with
      | _, some (n, _) => .ok n
      | .infinite _, none => .error (.overflow "cannot convert Infinity to integer")
      | _, none => .error (.badValue "cannot convert NaN to integer")
  | .text s => (readInteger s.toList).mapError (literalFailure s)
  | .uuid id => .ok id.toNat
  | .null | .list _ | .record _ | .time _ => .error .wrongType

/-- The count a cell stands for: zero when there is nothing in it. -/
def count (c : Cell) : Except Failure Int :=
  if c.isFalsy then .ok 0 else c.integer

end Cell

end GeoRegistry
