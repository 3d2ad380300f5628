/-
# Text.Percent -- texts with octets written as percent signs

A percent sign and two hexadecimal digits stand for an octet.  `decode` reads
them; what only looks like one stands for itself, and octets that are no text
become replacement characters.  `requote` writes every octet that has no place in
an address that way and leaves the rest alone, percent signs included.
-/
import GeoRegistry.Text.Digit
import GeoRegistry.Text.Utf8

namespace GeoRegistry.Text.Percent

set_option autoImplicit false

/-! ## Reading -/

/-- The octets of a text with percent signs. -/
def octets : List Char → List UInt8
  | [] => []
  | '%' :: a :: b :: rest =>
      match hexDigit? a, hexDigit? b with
      | some high, some low => UInt8.ofNat (16 * high.val + low.val) :: octets rest
      | _, _ => 37 :: octets (a :: b :: rest)
  | c :: rest => Utf8.encode (String.singleton c) ++ octets rest
termination_by cs => cs.length

/-- The text that a text with percent signs stands for. -/
def decode (s : String) : String :=
  Utf8.decodeLossy (octets s.toList)

/-! ## Writing -/

/-- An octet as a percent sign and two digits. -/
def escaped (octet : UInt8) : List Char :=
  ['%', upperHexChar (lastHex (octet.toNat / 16)), upperHexChar (lastHex octet.toNat)]

/-- The characters that have a place in an address. -/
def isAddress (c : Char) : Bool :=
  c.isAlphanum || "_.-~:/%#?=@[]!$&'()*+,;".toList.contains c

/-- A character as it stands in an address. -/
def requoteChar (c : Char) : List Char :=
  if isAddress c then [c] else (Utf8.encode (String.singleton c)).flatMap escaped

/-- A text as an address. -/
def requote (s : String) : String :=
  String.ofList (s.toList.flatMap requoteChar)

end GeoRegistry.Text.Percent
