/-
# Json.Parser -- reading JSON text

The words NaN, Infinity and -Infinity are read as numbers, and of several fields
of one name the last counts.  A fault is located by how many characters were
left to read there, so that no step counts positions; `Fault.offset` turns that
into an offset from the start.  Containers may lie in each other to a depth of
`depthLimit`; one that lies deeper is a fault where it opens.  The fuel of
`value` is one more than the length of the text, and every step down spends a
character.
-/
import GeoRegistry.Json
import GeoRegistry.Decimal
import GeoRegistry.Text.IntegerLiteral
import GeoRegistry.Text.Surrogate

namespace GeoRegistry.Json

set_option autoImplicit false

open Text

/-- Why a text is no JSON value. -/
inductive Fault where
  /-- The text breaks the grammar where `left` characters remained. -/
  | malformed (left : Nat)
  /-- A whole number has too many digits to be read. -/
  | oversized (digits : Nat)
  /-- A container lies too deep in others. -/
  | tooDeep (container : Container)
  deriving DecidableEq, Repr

/-- How numbers are read. -/
inductive Numerals where
  /-- As what they are. -/
  | values
  /-- As texts, just as they are written. -/
  | texts
  deriving DecidableEq, Repr

/-- How deep containers may lie in each other. -/
def depthLimit : Nat := 960

/-- What a step reads, and the rest of the text. -/
abbrev Step (α : Type) := Except Fault (α × List Char)

/-- A character that may stand between tokens. -/
def isSpace (c : Char) : Bool :=
  c == ' ' || c == '\t' || c == '\n' || c == '\r'

def skip (cs : List Char) : List Char :=
  cs.dropWhile isSpace

/-- A grammar fault at the start of the given rest. -/
def malformed {α : Type} (rest : List Char) : Step α :=
  .error (.malformed rest.length)

/-! ## Strings -/

/-- Four hexadecimal digits. -/
def unit? (a b c d : Char) : Option Nat :=
  match hexDigit? a, hexDigit? b, hexDigit? c, hexDigit? d with
  | some w, some x, some y, some z => some (w.val * 4096 + x.val * 256 + y.val * 16 + z.val)
  | _, _, _, _ => none

/-- The character that a letter after a backslash stands for. -/
def shortEscape? (c : Char) : Option Char :=
  if c = '"' ∨ c = '\\' ∨ c = '/' then some c
  else if c = 'b' then some '\x08'
  else if c = 'f' then some '\x0c'
  else if c = 'n' then some '\n'
  else if c = 'r' then some '\r'
  else if c = 't' then some '\t'
  else none

/-- Read the digits of an escaped unit.  They count only when some character
follows them; a fault lies at the letter before them. -/
def escapedUnit : List Char → Step Nat
  | a :: b :: c :: d :: next :: rest =>
      match unit? a b c d with
      | some n => .ok (n, next :: rest)
      | none => .error (.malformed (rest.length + 6))
  | rest => .error (.malformed (rest.length + 1))

/-- Read an escaped unit, and its partner when it is the first of a pair. -/
def escapedChar (cs : List Char) : Step Char :=
  match escapedUnit cs with
  | .error e => .error e
  | .ok (high, rest) =>
      match rest with
      | '\\' :: 'u' :: more =>
          if Surrogate.isHigh high ∧ 5 ≤ more.length then
            match escapedUnit more with
            | .error e => .error e
            | .ok (low, rest') =>
                if Surrogate.isLow low then .ok (Surrogate.pair high low, rest')
                else .ok (Surrogate.charOf high, rest)
          else .ok (Surrogate.charOf high, rest)
      | _ => .ok (Surrogate.charOf high, rest)

/-- Read one character of a string, or `none` at its closing quote.  `start` is
how many characters remained at the opening quote. -/
def stringChar (start : Nat) : List Char → Step (Option Char)
  | [] => .error (.malformed start)
  | '"' :: rest => .ok (none, rest)
  | ['\\'] => .error (.malformed start)
  | '\\' :: 'u' :: rest => (escapedChar rest).map fun r => (some r.1, r.2)
  | '\\' :: c :: rest =>
      match shortEscape? c with
      | some e => .ok (some e, rest)
      | none => .error (.malformed (rest.length + 2))
  | c :: rest => if c.toNat < 0x20 then .error (.malformed (rest.length + 1)) else .ok (some c, rest)

/-- Read the characters of a string up to its closing quote. -/
def stringBody (start : Nat) : Nat → List Char → Step (List Char)
  | 0, cs => malformed cs
  | fuel + 1, cs =>
      match stringChar start cs with
      | .error e => .error e
      | .ok (none, rest) => .ok ([], rest)
      | .ok (some c, rest) => (stringBody start fuel rest).map fun r => (c :: r.1, r.2)

/-- Read a string whose opening quote has been passed. -/
def string (cs : List Char) : Step String :=
  (stringBody (cs.length + 1) (cs.length + 1) cs).map fun r => (String.ofList r.1, r.2)

/-! ## Numbers -/

def digits (cs : List Char) : List Char × List Char :=
  (cs.takeWhile Char.isDigit, cs.dropWhile Char.isDigit)

def digitValues (cs : List Char) : List Nat :=
  cs.map fun c => c.toNat - 48

/-- The digits before the point: a zero, or digits that do not start with one. -/
def integerPart? : List Char → Option (List Char × List Char)
  | '0' :: rest => some (['0'], rest)
  | cs => if (digits cs).1.isEmpty then none else some (digits cs)

/-- A point and the digits after it, or nothing. -/
def fractionPart : List Char → List Char × List Char
  | '.' :: rest => if (digits rest).1.isEmpty then ([], '.' :: rest) else digits rest
  | cs => ([], cs)

/-- An exponent mark, a sign and digits, or nothing. -/
def exponentPart (cs : List Char) : Option Int × List Char :=
  match cs with
  | c :: rest =>
      if c = 'e' ∨ c = 'E' then
        let (negative, body) := splitSign rest
        let (ds, rest') := digits body
        if ds.isEmpty then (none, cs) else (some (signed negative (ofDigits (digitValues ds))), rest')
      else (none, cs)
  | [] => (none, cs)

/-- What a number stands for: one with neither a fraction nor an exponent is an
integer. -/
def numberValue (negative : Bool) (whole fraction : List Char) (exponent : Option Int) :
    Except Fault Json :=
  if fraction.isEmpty && exponent.isNone then
    if whole.length ≤ maxDigits then
      .ok (.int (signed negative (ofDigits (digitValues whole))))
    else .error (.oversized whole.length)
  else
    let scale := exponent.getD 0 - fraction.length
    .ok (.float (.ofDecimal negative (ofDigits (digitValues (whole ++ fraction))) scale))

/-- Read a number.  `here` is the text from the number's start. -/
def number (mode : Numerals) (here : List Char) (negative : Bool) (cs : List Char) : Step Json :=
  match integerPart? cs with
  | none => malformed here
  | some (whole, rest) =>
      let (fraction, rest) := fractionPart rest
      let (exponent, rest) := exponentPart rest
      match mode with
      | .values => (numberValue negative whole fraction exponent).map (·, rest)
      | .texts => .ok (.text (String.ofList (here.take (here.length - rest.length))), rest)

/-! ## Values -/

/-- Read a fixed word whose first letter has been passed. -/
def word (here : List Char) (rest : List Char) (tail : List Char) (v : Json) : Step Json :=
  if tail.isPrefixOf rest then .ok (v, rest.drop tail.length) else malformed here

/-- Read what is neither a string nor an array nor an object. -/
def atom (mode : Numerals) (here : List Char) : Step Json :=
  match here with
  | 'n' :: rest => word here rest "ull".toList .null
  | 't' :: rest => word here rest "rue".toList (.bool true)
  | 'f' :: rest => word here rest "alse".toList (.bool false)
  | 'N' :: rest => word here rest "aN".toList (.float .nan)
  | 'I' :: rest => word here rest "nfinity".toList (.float (.infinite false))
  | '-' :: 'I' :: rest => word here rest "nfinity".toList (.float (.infinite true))
  | '-' :: rest => number mode here true rest
  | _ => number mode here false here

mutual

/-- Read a value at its first character; `depth` containers may still be opened
in each other. -/
def value (mode : Numerals) : (fuel depth : Nat) → List Char → Step Json
  | 0, _, cs => malformed cs
  | fuel + 1, depth, cs =>
      match cs, depth with
      | '"' :: rest, _ => (string rest).map fun r => (.text r.1, r.2)
      | '[' :: _, 0 => .error (.tooDeep .array)
      | '[' :: rest, depth + 1 =>
          match skip rest with
          | ']' :: rest' => .ok (.array [], rest')
          | rest' => (items mode fuel depth rest').map fun r => (.array r.1, r.2)
      | '\x7b' :: _, 0 => .error (.tooDeep .object)
      | '\x7b' :: rest, depth + 1 =>
          match skip rest with
          | '\x7d' :: rest' => .ok (.object [], rest')
          | rest' => (fields mode fuel depth rest').map fun r => (.object (distinct r.1), r.2)
      | _, _ => atom mode cs

/-- Read the items of an array from its first item to its closing bracket. -/
def items (mode : Numerals) : (fuel depth : Nat) → List Char → Step (List Json)
  | 0, _, cs => malformed cs
  | fuel + 1, depth, cs =>
      match value mode fuel depth cs with
      | .error e => .error e
      | .ok (v, rest) =>
          match skip rest with
          | ']' :: rest' => .ok ([v], rest')
          | ',' :: rest' => (items mode fuel depth (skip rest')).map fun r => (v :: r.1, r.2)
          | rest' => malformed rest'

/-- Read the fields of an object from its first name to its closing brace. -/
def fields (mode : Numerals) : (fuel depth : Nat) → List Char → Step (List (String × Json))
  | 0, _, cs => malformed cs
  | fuel + 1, depth, cs =>
      match cs with
      | '"' :: rest =>
          match string rest with
          | .error e => .error e
          | .ok (name, rest) =>
              match skip rest with
              | ':' :: rest =>
                  match value mode fuel depth (skip rest) with
                  | .error e => .error e
                  | .ok (v, rest) =>
                      match skip rest with
                      | '\x7d' :: rest' => .ok ([(name, v)], rest')
                      | ',' :: rest' =>
                          (fields mode fuel depth (skip rest')).map fun r =>
                            ((name, v) :: r.1, r.2)
                      | rest' => malformed rest'
              | rest' => malformed rest'
      | _ => malformed cs

end

/-- Read a text that holds one value and blanks around it. -/
def parseChars (mode : Numerals) (depth : Nat) (cs : List Char) : Except Fault Json :=
  match value mode (cs.length + 1) depth (skip cs) with
  | .error e => .error e
  | .ok (v, rest) =>
      match skip rest with
      | [] => .ok v
      | rest' => .error (.malformed rest'.length)

/-- Read a JSON text. -/
def parse (s : String) : Except Fault Json :=
  parseChars .values depthLimit s.toList

/-- Read a JSON text with its numbers as texts. -/
def parseVerbatim (s : String) : Except Fault Json :=
  parseChars .texts depthLimit s.toList

/-- Where a fault lies, counted in characters from the start of the text. -/
def Fault.offset (length : Nat) : Fault → Nat
  | .malformed left => length - left
  | .oversized _ | .tooDeep _ => 0

end GeoRegistry.Json
