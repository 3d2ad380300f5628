/-
# Text.Base64Url -- octets as letters that are safe in a URL

Three octets are four characters, six bits each.  `encode` writes no padding.
`decode` is lenient: it takes both alphabets, skips characters of neither, and
stops at a padding that completes a group; what is left over at the end must be
a whole number of groups.
-/

namespace GeoRegistry.Text.Base64Url

set_option autoImplicit false

/-- The octet of the padding. -/
def pad : UInt8 := '='.toUInt8

/-- The character of six bits. -/
def letter (n : Nat) : Char :=
  if n < 26 then Char.ofNat (n + 65)
  else if n < 52 then Char.ofNat (n + 71)
  else if n < 62 then Char.ofNat (n - 4)
  else if n = 62 then '-'
  else '_'

/-- The six bits of a character, given as its octet. -/
def sextet? (b : UInt8) : Option Nat :=
  let n := b.toNat
  if 65 ≤ n ∧ n ≤ 90 then some (n - 65)
  else if 97 ≤ n ∧ n ≤ 122 then some (n - 71)
  else if 48 ≤ n ∧ n ≤ 57 then some (n + 4)
  else if n = 43 ∨ n = 45 then some 62
  else if n = 47 ∨ n = 95 then some 63
  else none

/-! ## Writing -/

/-- The characters of octets, without padding. -/
def letters : List UInt8 → List Char
  | a :: b :: c :: rest =>
      let n := a.toNat * 65536 + b.toNat * 256 + c.toNat
      letter (n / 262144) :: letter (n / 4096 % 64) :: letter (n / 64 % 64) :: letter (n % 64) ::
        letters rest
  | [a, b] =>
      let n := a.toNat * 1024 + b.toNat * 4
      [letter (n / 4096), letter (n / 64 % 64), letter (n % 64)]
  | [a] =>
      let n := a.toNat * 16
      [letter (n / 64), letter (n % 64)]
  | [] => []

def encode (octets : List UInt8) : String :=
  String.ofList (letters octets)

/-! ## Reading -/

/-- The octets of a group of two, three or four sextets; bits that fill no octet
are dropped. -/
def ofGroup : List Nat → List UInt8
  | [p, q] => [.ofNat (p * 4 + q / 16)]
  | [p, q, r] => [.ofNat (p * 4 + q / 16), .ofNat (q % 16 * 16 + r / 4)]
  | [p, q, r, s] =>
      [.ofNat (p * 4 + q / 16), .ofNat (q % 16 * 16 + r / 4), .ofNat (r % 4 * 64 + s)]
  | _ => []

/-- Why a text stands for no octets. -/
inductive Fault where
  /-- One sextet is left over; how many there are in all. -/
  | excess (sextets : Nat)
  /-- The last group lacks its padding. -/
  | unpadded
  deriving DecidableEq, Repr

/-- What is said about a fault. -/
def Fault.message : Fault → String
  | .excess sextets =>
      "Invalid base64-encoded string: number of data characters (" ++ toString sextets ++
        ") cannot be 1 more than a multiple of 4"
  | .unpadded => "Incorrect padding"

/-- The end of a text after whole groups and the sextets of an unfinished one. -/
def finish (groups : Nat) : (group : List Nat) → Except Fault (List UInt8)
  | [] => .ok []
  | [_] => .error (.excess (4 * groups + 1))
  | _ => .error .unpadded

/-- Read on after whole groups, the sextets of an unfinished one and some
padding. -/
def decodeFrom : (groups : Nat) → (group : List Nat) → (pads : Nat) → List UInt8 →
    Except Fault (List UInt8)
  | groups, group, _, [] => finish groups group
  | groups, group, pads, b :: rest =>
      if b = pad then
        if group.length < 2 then decodeFrom groups group pads rest
        else if 4 ≤ group.length + pads + 1 then .ok (ofGroup group)
        else decodeFrom groups group (pads + 1) rest
      else
        match sextet? b with
        | none => decodeFrom groups group pads rest
        | some n =>
            if group.length = 3 then
              (decodeFrom (groups + 1) [] 0 rest).map (ofGroup (group ++ [n]) ++ ·)
            else decodeFrom groups (group ++ [n]) 0 rest

/-- A text with padding up to a multiple of four. -/
def padded (text : List UInt8) : List UInt8 :=
  text ++ List.replicate ((4 - text.length % 4) % 4) pad

/-- The octets of a text, given as octets itself; missing padding is supplied. -/
def decode (text : List UInt8) : Except Fault (List UInt8) :=
  decodeFrom 0 [] 0 (padded text)

/-- The octets of a text, if it stands for any. -/
def decode? (text : List UInt8) : Option (List UInt8) :=
  (decode text).toOption

end GeoRegistry.Text.Base64Url
