/-
# Log.Template -- message templates with percent directives

A directive is `%`, an optional name in parentheses, flags, a width, a precision
and a conversion letter.  `s`, `r` and `a` show any value, `d`, `i` and `u` a
number without its fraction, `x`, `X` and `o` a whole number, `c` one character,
`e`, `f` and `g` a number with its fraction.  Values are taken in turn, or by
name when there is a single record.  A record and a list count as one value each
when they stand alone, and need not be taken at all.
-/
import GeoRegistry.Cell.Quoted
import GeoRegistry.Text.IntegerLiteral

namespace GeoRegistry.Log.Template

set_option autoImplicit false

open Text

/-- Why a template cannot be filled in. -/
inductive Fault where
  /-- The values do not fit the directives. -/
  | mismatch
  /-- A directive or a value makes no sense; what is said about it. -/
  | senseless (message : String)
  /-- A number is too large to be shown without a fraction. -/
  | overflow (message : String)
  /-- There is no value of a name. -/
  | unnamed (name : String)
  deriving Repr

/-- The values of a template. -/
inductive Values where
  | positional (cells : List Cell)
  /-- A single record or list; the value in turn is it itself, or the field that
  was named last, and each is taken once. -/
  | whole (collection : Cell) (current : Option Cell)

structure Directive where
  flags : List Char
  width : Option Nat
  precision : Option Nat
  conversion : Char

namespace Directive

def left (d : Directive) : Bool := d.flags.contains '-'

def zero (d : Directive) : Bool := d.flags.contains '0' && !d.left

/-- The sign of a number that is not negative. -/
def plus (d : Directive) : List Char :=
  if d.flags.contains '+' then ['+'] else if d.flags.contains ' ' then [' '] else []

/-- Pad a text with blanks to the width. -/
def pad (d : Directive) (cs : List Char) : List Char :=
  let blanks := List.replicate (d.width.getD 0 - cs.length) ' '
  if d.left then cs ++ blanks else blanks ++ cs

/-- Pad a number, its sign in front, with zeros or blanks to the width. -/
def padNumber (d : Directive) (sign body : List Char) : List Char :=
  if d.zero then
    sign ++ List.replicate (d.width.getD 0 - sign.length - body.length) '0' ++ body
  else d.pad (sign ++ body)

/-- The sign of a number. -/
def sign (d : Directive) (negative : Bool) : List Char :=
  if negative then ['-'] else d.plus

/-- The greatest precision of a whole number. -/
def mostPrecision : Nat := 2147483644

/-- A whole number in a base, at least as many digits as the precision.  There is
a limit to the decimal digits of a number. -/
def whole (d : Directive) (base : Nat) (mark : List Char) (upper : Bool) (n : Int) :
    Except Fault (List Char) :=
  let precision := d.precision.getD 0
  let digits := Nat.toDigits base n.natAbs
  if mostPrecision < precision then .error (.overflow "precision too large")
  else if base = 10 ∧ maxDigits < digits.length then .error (.senseless tooManyDigitsToShow)
  else
    let digits := if upper then digits.map Char.toUpper else digits
    let digits := List.replicate (precision - digits.length) '0' ++ digits
    let mark := if d.flags.contains '#' then mark else []
    .ok (d.padNumber (d.sign (n < 0) ++ mark) digits)

/-- A fraction with a fixed number of places. -/
def fixedDigits (num den places : Nat) (point : Bool) : List Char :=
  let n := Binary64.roundHalfEven (num * Nat.pow 10 places) den
  let ds := Nat.toDigits 10 n
  let ds := List.replicate (places + 1 - ds.length) '0' ++ ds
  let whole := ds.take (ds.length - places)
  whole ++ (if places = 0 then (if point then ['.'] else []) else '.' :: ds.drop (ds.length - places))

/-- The digits and the power of ten of a fraction with a fixed number of
significant digits. -/
def scientificDigits (num den places : Nat) : List Char × Int :=
  if num = 0 then (List.replicate (places + 1) '0', 0)
  else
    let top := Binary64.leadingPower num den
    let scale := top - places
    let n := Binary64.roundHalfEven (num * Nat.pow 10 (-scale).toNat) (den * Nat.pow 10 scale.toNat)
    let ds := Nat.toDigits 10 n
    if ds.length ≤ places + 1 then (ds, top) else (ds.take (places + 1), top + 1)

/-- Significant digits and a signed power of ten of at least two digits. -/
def scientific (ds : List Char) (power : Int) (point : Bool) : List Char :=
  let size := Nat.toDigits 10 power.natAbs
  ds.take 1 ++ (if ds.length ≤ 1 then (if point then ['.'] else []) else '.' :: ds.drop 1) ++
    ['e', if power < 0 then '-' else '+'] ++ List.replicate (2 - size.length) '0' ++ size

/-- Drop the zeros at the end of a fraction, and its point when nothing is left. -/
def dropZeros (cs : List Char) : List Char :=
  if cs.contains '.' then
    let kept := cs.reverse.dropWhile (· == '0')
    (if kept.head? = some '.' then kept.drop 1 else kept).reverse
  else cs

/-- A magnitude laid out by one of the letters `e`, `f` and `g`. -/
def layFloat (letter : Char) (precision : Nat) (alternate : Bool) (num den : Nat) : List Char :=
  if letter = 'f' then fixedDigits num den precision alternate
  else if letter = 'e' then
    let (ds, power) := scientificDigits num den precision
    scientific ds power alternate
  else
    let p := max precision 1
    let (ds, power) := scientificDigits num den (p - 1)
    let trim := fun cs => if alternate then cs else dropZeros cs
    if -4 ≤ power ∧ power < p then trim (fixedDigits num den (p - 1 - power.toNat + (-power).toNat) alternate)
    else
      let mantissa := trim (ds.take 1 ++ '.' :: ds.drop 1)
      let size := Nat.toDigits 10 power.natAbs
      mantissa ++ ['e', if power < 0 then '-' else '+'] ++
        List.replicate (2 - size.length) '0' ++ size

/-- A number with its fraction. -/
def float (d : Directive) (x : Binary64) : List Char :=
  let letter := d.conversion.toLower
  let raise := fun cs => if d.conversion.isUpper then cs.map Char.toUpper else cs
  match x with
  | .nan => d.pad (d.sign false ++ raise "nan".toList)
  | .infinite negative => d.pad (d.sign negative ++ raise "inf".toList)
  | .finite negative m e =>
      let (num, den) := Binary64.magnitude m e
      d.padNumber (d.sign negative)
        (raise (layFloat letter (d.precision.getD 6) (d.flags.contains '#') num den))

/-- A number without its fraction, for the letters `d`, `i` and `u`. -/
def integerOf : Cell → Except Fault Int
  | .int n => .ok n
  | .bool b => .ok (if b then 1 else 0)
  | .float x =>
      match x, x.truncate? with
      | _, some n => .ok n
      | .nan, none => .error (.senseless "cannot convert float NaN to integer")
      | _, none => .error (.overflow "cannot convert float infinity to integer")
  | .decimal d =>
      match d, d.integerPart? with
      | _, some (n, _) => .ok n
      | .nan .., none => .error (.senseless "cannot convert NaN to integer")
      | _, none => .error (.overflow "cannot convert Infinity to integer")
  | .uuid id => .ok id.toNat
  | _ => .error .mismatch

/-- A whole number, for the letters that show other bases. -/
def wholeOf : Cell → Except Fault Int
  | .int n => .ok n
  | .bool b => .ok (if b then 1 else 0)
  | _ => .error .mismatch

def floatOf : Cell → Except Fault Binary64
  | .float x => .ok x
  | .int n =>
      let x := Binary64.ofInt n
      if x.isFinite then .ok x else .error (.overflow "int too large to convert to float")
  | .bool b => .ok (.ofInt (if b then 1 else 0))
  | .decimal (.nan _ true _) => .error (.senseless "cannot convert signaling NaN to float")
  | .decimal d => .ok d.toBinary64
  | _ => .error .mismatch

/-- The single character that `c` shows. -/
def characterOf : Cell → Except Fault Char
  | .text s =>
      match s.toList with
      | [c] => .ok c
      | _ => .error .mismatch
  | .int n =>
      if 0 ≤ n ∧ n < 0x110000 then .ok (Surrogate.charOf n.toNat)
      else .error (.overflow "%c arg not in range(0x110000)")
  | .bool b => .ok (Char.ofNat (if b then 1 else 0))
  | _ => .error .mismatch

/-- Show a text, cut to the precision. -/
def shown (d : Directive) (s : String) : List Char :=
  let cs := s.toList
  d.pad (match d.precision with | some p => cs.take p | none => cs)

/-- Every character beyond ASCII escaped. -/
def asciiOnly (s : String) : String :=
  String.ofList <| s.toList.flatMap fun c =>
    if c.toNat < 0x7F then [c]
    else if c.toNat < 0x100 then '\\' :: 'x' :: hexPadded 2 c.toNat
    else if c.toNat < 0x10000 then '\\' :: 'u' :: hexPadded 4 c.toNat
    else '\\' :: 'U' :: hexPadded 8 c.toNat

/-- Show a value in one of its texts.  There is a limit to the digits of the
integers in it. -/
def inWords (d : Directive) (cell : Cell) (text : Cell → String) : Except Fault (List Char) :=
  if cell.hasLongInteger then .error (.senseless tooManyDigitsToShow)
  else .ok (d.shown (text cell))

/-- Show one value. -/
def apply (d : Directive) (at_ : Nat) (cell : Cell) : Except Fault (List Char) :=
  match d.conversion with
  | 's' => d.inWords cell Cell.prose
  | 'r' => d.inWords cell Cell.quoted
  | 'a' => d.inWords cell fun c => asciiOnly c.quoted
  | 'd' | 'i' | 'u' => (integerOf cell).bind (d.whole 10 [] false)
  | 'x' => (wholeOf cell).bind (d.whole 16 ['0', 'x'] false)
  | 'X' => (wholeOf cell).bind (d.whole 16 ['0', 'X'] true)
  | 'o' => (wholeOf cell).bind (d.whole 8 ['0', 'o'] false)
  | 'c' => (characterOf cell).map fun c => d.pad [c]
  | 'e' | 'E' | 'f' | 'F' | 'g' | 'G' => (floatOf cell).map d.float
  | c =>
      let shown := if 31 ≤ c.toNat ∧ c.toNat < 127 then c else '?'
      .error <| .senseless <|
        "unsupported format character '" ++ shown.toString ++ "' (0x" ++
          String.ofList (Nat.toDigits 16 c.toNat) ++ ") at index " ++ toString at_

end Directive

/-! ## Taking values -/

/-- A value that stands alone. -/
def Values.alone : Cell → Values
  | .record fields => .whole (.record fields) (some (.record fields))
  | .list items => .whole (.list items) (some (.list items))
  | c => .positional [c]

/-- Values that stand in a row; a single record among them stands alone. -/
def Values.row : List Cell → Values
  | [.record (f :: fs)] => .alone (.record (f :: fs))
  | cells => .positional cells

/-- The next value, and the ones after it. -/
def Values.next : Values → Except Fault (Cell × Values)
  | .positional (c :: rest) => .ok (c, .positional rest)
  | .positional [] => .error .mismatch
  | .whole collection (some c) => .ok (c, .whole collection none)
  | .whole _ none => .error .mismatch

/-- Make the value of a name the next one. -/
def Values.select (name : String) : Values → Except Fault Values
  | .whole (.record fields) _ =>
      match fields.lookup name with
      | some c => .ok (.whole (.record fields) (some c))
      | none => .error (.unnamed name)
  | _ => .error .mismatch

/-- No value is left that a directive should have shown. -/
def Values.exhausted : Values → Bool
  | .positional cells => cells.isEmpty
  | .whole .. => true

/-! ## Reading directives -/

def incomplete {α : Type} : Except Fault α := .error (.senseless "incomplete format")

/-- Between which numbers a width or precision lies, and what is said of one
beyond them that is written out or taken from a value. -/
structure Limit where
  least : Int
  most : Int
  written : String
  taken : String

def widthLimit : Limit where
  least := -9223372036854775808
  most := 9223372036854775807
  written := "width too big"
  taken := "Python int too large to convert to C ssize_t"

def precisionLimit : Limit where
  least := -2147483648
  most := 2147483647
  written := "precision too big"
  taken := "Python int too large to convert to C int"

/-- A width or precision taken from a value. -/
def Limit.ofInt (l : Limit) (n : Int) : Except Fault (Option Int) :=
  if l.least ≤ n ∧ n ≤ l.most then .ok (some n) else .error (.overflow l.taken)

/-- A width or precision written out; there may be none. -/
def Limit.ofDigits (l : Limit) (digits : List Char) : Except Fault (Option Int) :=
  let n := Text.ofDigits (digits.map fun c => c.toNat - 48)
  if digits.isEmpty then .ok none
  else if (n : Int) ≤ l.most then .ok (some n)
  else .error (.senseless l.written)

/-- A width or precision: digits, or a star that takes the next value. -/
def count (l : Limit) (values : Values) (cs : List Char) :
    Except Fault (Option Int × Values × List Char) :=
  match cs with
  | '*' :: rest => do
      let (cell, values) ← values.next
      match cell with
      | .int n => return (← l.ofInt n, values, rest)
      | .bool b => return (some (if b then 1 else 0), values, rest)
      | _ => .error .mismatch
  | _ => do
      let ds := cs.takeWhile Char.isDigit
      return (← l.ofDigits ds, values, cs.drop ds.length)

/-- The name in parentheses after a percent sign; inner parentheses must match. -/
def nameOf : (depth : Nat) → List Char → Option (List Char × List Char)
  | _, [] => none
  | depth, c :: rest =>
      if c = ')' then
        match depth with
        | 0 => some ([], rest)
        | depth + 1 => (nameOf depth rest).map fun r => (c :: r.1, r.2)
      else (nameOf (if c = '(' then depth + 1 else depth) rest).map fun r => (c :: r.1, r.2)

def isFlag (c : Char) : Bool :=
  c == '-' || c == '+' || c == ' ' || c == '#' || c == '0'

/-- Read a directive after its percent sign and show its value.  The template has
`length` characters. -/
def directive (length : Nat) (values : Values) (cs : List Char) :
    Except Fault (List Char × Values × List Char) := do
  let (values, cs) ←
    match cs with
    | '(' :: rest =>
        match values, nameOf 0 rest with
        | .positional _, _ => .error .mismatch
        | _, none => .error (.senseless "incomplete format key")
        | _, some (name, rest) => do .ok (← values.select (String.ofList name), rest)
    | _ => .ok (values, cs)
  let flags := cs.takeWhile isFlag
  let (width, values, cs) ← count widthLimit values (cs.drop flags.length)
  let (precision, values, cs) ←
    match cs with
    | '.' :: rest => (count precisionLimit values rest).map fun r => (some (r.1.getD 0), r.2)
    | _ => .ok (none, values, cs)
  let cs := if cs.head?.any fun c => c = 'h' ∨ c = 'l' ∨ c = 'L' then cs.drop 1 else cs
  match cs with
  | [] => incomplete
  | c :: rest =>
      let negative := width.any (· < 0)
      let d : Directive :=
        { flags := if negative then '-' :: flags else flags, width := width.map Int.natAbs,
          precision := precision.map Int.toNat, conversion := c }
      let (cell, values) ← values.next
      return (← d.apply (length - (rest.length + 1)) cell, values, rest)

/-- Fill in the rest of a template.  The fuel is its length: every step passes a
character. -/
def fill (length : Nat) : Nat → Values → List Char → Except Fault (List Char)
  | 0, _, _ => .ok []
  | _ + 1, values, [] => if values.exhausted then .ok [] else .error .mismatch
  | fuel + 1, values, '%' :: '%' :: rest => (fill length fuel values rest).map ('%' :: ·)
  | fuel + 1, values, '%' :: rest =>
      match directive length values rest with
      | .error e => .error e
      | .ok (cs, values, rest) => (fill length fuel values rest).map (cs ++ ·)
  | fuel + 1, values, c :: rest => (fill length fuel values rest).map (c :: ·)

/-- Fill in a template. -/
def format (template : String) (values : Values) : Except Fault String :=
  let cs := template.toList
  (fill cs.length (cs.length + 1) values cs).map String.ofList

end GeoRegistry.Log.Template
