/-
# Text.Digit -- decimal digits of every script

The Unicode general category Nd, as of version 14 of the standard, comes in runs
of ten consecutive code points, zero first.  A run is therefore named by its
zero, and a digit's value is its distance from it.
-/

namespace GeoRegistry.Text

set_option autoImplicit false

/-- The zero of every decimal digit run. -/
def digitZeros : List Nat :=
  [0x30, 0x660, 0x6F0, 0x7C0, 0x966, 0x9E6, 0xA66, 0xAE6, 0xB66, 0xBE6, 0xC66, 0xCE6, 0xD66,
   0xDE6, 0xE50, 0xED0, 0xF20, 0x1040, 0x1090, 0x17E0, 0x1810, 0x1946, 0x19D0, 0x1A80, 0x1A90,
   0x1B50, 0x1BB0, 0x1C40, 0x1C50, 0xA620, 0xA8D0, 0xA900, 0xA9D0, 0xA9F0, 0xAA50, 0xABF0,
   0xFF10, 0x104A0, 0x10D30, 0x11066, 0x110F0, 0x11136, 0x111D0, 0x112F0, 0x11450, 0x114D0,
   0x11650, 0x116C0, 0x11730, 0x118E0, 0x11950, 0x11C50, 0x11D50, 0x11DA0, 0x16A60,
   0x16AC0, 0x16B50, 0x1D7CE, 0x1D7D8, 0x1D7E2, 0x1D7EC, 0x1D7F6, 0x1E140, 0x1E2F0,
   0x1E950, 0x1FBF0]

/-- The value of a decimal digit of any script. -/
def decimalDigit? (c : Char) : Option Nat :=
  (digitZeros.find? fun z => z ≤ c.toNat && c.toNat ≤ z + 9).map (c.toNat - ·)

/-- The value of a decimal digit of the ASCII script. -/
def asciiDigit? (c : Char) : Option Nat :=
  if c.isDigit then some (c.toNat - 48) else none

/-- The last hexadecimal digit of a number. -/
def lastHex (n : Nat) : Fin 16 :=
  Fin.ofNat 16 n

/-- The value of a hexadecimal digit, in either case. -/
def hexDigit? (c : Char) : Option (Fin 16) :=
  let n := c.toNat
  if 48 ≤ n ∧ n ≤ 57 then some (lastHex (n - 48))
  else if 65 ≤ n ∧ n ≤ 70 then some (lastHex (n - 55))
  else if 97 ≤ n ∧ n ≤ 102 then some (lastHex (n - 87))
  else none

/-- The lower-case hexadecimal digit of a value. -/
def hexChar (d : Fin 16) : Char :=
  if d.val < 10 then Char.ofNat (48 + d.val) else Char.ofNat (87 + d.val)

/-- The upper-case hexadecimal digit of a value. -/
def upperHexChar (d : Fin 16) : Char :=
  if d.val < 10 then Char.ofNat (48 + d.val) else Char.ofNat (55 + d.val)

/-- A number in lower-case hexadecimal, padded with zeros to a width. -/
def hexPadded : (width : Nat) → Nat → List Char
  | 0, _ => []
  | w + 1, n => hexPadded w (n / 16) ++ [hexChar (lastHex n)]

/-- A character by its number, in as few digits as two, four or eight. -/
def escapedCode (n : Nat) : List Char :=
  if n < 0x100 then '\\' :: 'x' :: hexPadded 2 n
  else if n < 0x10000 then '\\' :: 'u' :: hexPadded 4 n
  else '\\' :: 'U' :: hexPadded 8 n

/-- A number in upper-case hexadecimal, without zeros in front. -/
def upperHex (n : Nat) : String :=
  String.ofList ((Nat.toDigits 16 n).map fun c => (hexDigit? c).elim c upperHexChar)

end GeoRegistry.Text
