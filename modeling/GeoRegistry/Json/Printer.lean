/-
# Json.Printer -- the text of a JSON value

The text is ASCII: every other character is written as `\u` and four hexadecimal
digits, one beyond U+FFFF as a surrogate pair, and half of a pair as itself.
Floating-point numbers have the
fewest digits that read back; those without digits are the bare words NaN,
Infinity and -Infinity.  An integer of too many digits is not written; who writes
a value asks for one first (`hasLongInteger`).
-/
import GeoRegistry.Json
import GeoRegistry.Binary64.Shortest
import GeoRegistry.Text.IntegerLiteral
import GeoRegistry.Text.Surrogate

namespace GeoRegistry.Json

set_option autoImplicit false

open Text

/-- What stands between the items of a list and after the name of a field. -/
structure Separators where
  item : String
  name : String

/-- Without a blank. -/
def compact : Separators := ⟨",", ":"⟩

/-- With one blank after each mark. -/
def spaced : Separators := ⟨", ", ": "⟩

/-- Four lower-case hexadecimal digits. -/
def hexUnit (n : Nat) : List Char :=
  [hexChar (lastHex (n / 4096)), hexChar (lastHex (n / 256)),
   hexChar (lastHex (n / 16)), hexChar (lastHex n)]

/-- The escape of one 16-bit unit. -/
def unitEscape (n : Nat) : List Char :=
  '\\' :: 'u' :: hexUnit n

/-- One character of a string literal. -/
def escapeChar (c : Char) : List Char :=
  if c = '"' then ['\\', '"']
  else if c = '\\' then ['\\', '\\']
  else if c = '\n' then ['\\', 'n']
  else if c = '\r' then ['\\', 'r']
  else if c = '\t' then ['\\', 't']
  else if c = '\x0c' then ['\\', 'f']
  else if c = '\x08' then ['\\', 'b']
  else
    let n := c.toNat
    if 0x20 ≤ n ∧ n ≤ 0x7E then [c]
    else if n < 0x10000 then unitEscape n
    else unitEscape (0xD800 + (n - 0x10000) / 0x400) ++ unitEscape (0xDC00 + (n - 0x10000) % 0x400)

/-- What is written for one character.  Half of a character is the escape of its unit,
whatever stands beside it. -/
def escaped (c : Char) : List Char :=
  match Surrogate.half? c with
  | some n => unitEscape n
  | none => escapeChar c

/-- The characters of a string literal. -/
def escapes (cs : List Char) : List Char :=
  cs.flatMap escaped

/-- A string literal, quotes included. -/
def literal (s : String) : List Char :=
  '"' :: escapes s.toList ++ ['"']

/-- The text of a floating-point number. -/
def floatText (x : Binary64) : String :=
  x.text ⟨"NaN", "Infinity"⟩

mutual

/-- The characters of a value. -/
def chars (sep : Separators) : Json → List Char
  | .null => "null".toList
  | .bool b => if b then "true".toList else "false".toList
  | .int n => (toString n).toList
  | .float x => (floatText x).toList
  | .text s => literal s
  | .array items => '[' :: itemChars sep items ++ [']']
  | .object fields => '\x7b' :: fieldChars sep fields ++ ['\x7d']

/-- The items of an array with separators between them. -/
def itemChars (sep : Separators) : List Json → List Char
  | [] => []
  | v :: rest => chars sep v ++ moreItems sep rest

/-- Items that follow another one. -/
def moreItems (sep : Separators) : List Json → List Char
  | [] => []
  | v :: rest => sep.item.toList ++ chars sep v ++ moreItems sep rest

/-- The fields of an object with separators between them. -/
def fieldChars (sep : Separators) : List (String × Json) → List Char
  | [] => []
  | (name, v) :: rest =>
      literal name ++ sep.name.toList ++ chars sep v ++ moreFields sep rest

/-- Fields that follow another one. -/
def moreFields (sep : Separators) : List (String × Json) → List Char
  | [] => []
  | (name, v) :: rest =>
      sep.item.toList ++ literal name ++ sep.name.toList ++ chars sep v ++ moreFields sep rest

end

mutual

/-- The value holds an integer of more digits than are written. -/
def hasLongInteger : Json → Bool
  | .int n => maxDigits < (Nat.toDigits 10 n.natAbs).length
  | .array items => itemsHaveLong items
  | .object fields => fieldsHaveLong fields
  | .null | .bool _ | .float _ | .text _ => false

def itemsHaveLong : List Json → Bool
  | [] => false
  | v :: rest => v.hasLongInteger || itemsHaveLong rest

def fieldsHaveLong : List (String × Json) → Bool
  | [] => false
  | (_, v) :: rest => v.hasLongInteger || fieldsHaveLong rest

end

/-- The text of a value. -/
def render (sep : Separators) (v : Json) : String :=
  String.ofList (chars sep v)

end GeoRegistry.Json
