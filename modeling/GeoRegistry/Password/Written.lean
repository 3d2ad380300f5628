/-
# Password.Written -- passwords written out

A password is written out as a digest of it, after the salt and the recipe that
the digest was made with.  `Written.read` reads exactly what is written so.
`Outline.fault?` reads more loosely, and tells what is wrong with a text whose
digest is not made.
-/
import GeoRegistry.Digest.Argon2
import GeoRegistry.Password.Fault

namespace GeoRegistry.Password

set_option autoImplicit false

open Text

/-! ## Parts of a text -/

/-- What follows a mark. -/
def after? (mark : String) (cs : List Char) : Option (List Char) :=
  if mark.toList.isPrefixOf cs then some (cs.drop mark.length) else none

/-- The characters up to the first one that ends a part, if there are any, and
what follows. -/
def part? (inPart : Char → Bool) (cs : List Char) : Option (List Char × List Char) :=
  match cs.takeWhile inPart with
  | [] => none
  | part => some (part, cs.drop part.length)

/-- A part behind a mark, if both are there. -/
def partAfter? (mark : String) (inPart : Char → Bool) (cs : List Char) :
    Option (List Char × List Char) :=
  (after? mark cs).bind (part? inPart)

/-- A part behind a mark, or none. -/
def optionalAfter (mark : String) (inPart : Char → Bool) (cs : List Char) :
    Option (List Char) × List Char :=
  match partAfter? mark inPart cs with
  | some (part, rest) => (some part, rest)
  | none => (none, cs)

/-- The number that decimal digits stand for. -/
def numberOf (digits : List Char) : Nat :=
  ofDigits (digits.filterMap asciiDigit?)

/-! ## Written digests -/

/-- A digest of a password, with what it was made from. -/
structure Written where
  recipe : Digest.Argon2.Recipe
  salt : List UInt8
  digest : List UInt8
  deriving DecidableEq, Repr

/-- The variants by name. -/
def variants : List (String × Digest.Argon2.Variant) :=
  [("i", .independent), ("d", .data), ("id", .hybrid)]

/-- The version of a digest that names none. -/
def firstVersion : Nat := 16

/-- The last version there is. -/
def lastVersion : Nat := 19

/-- The most lanes. -/
def mostLanes : Nat := 16777215

/-- The most blocks of memory that are to be had. -/
def mostMemory : Nat := 4194304

/-- A number below the 32nd power of two, in the only way it is written. -/
def word? (cs : List Char) : Option (Nat × List Char) :=
  match part? Char.isDigit cs with
  | some (digits, rest) =>
      if digits.head? = some '0' ∧ digits ≠ ['0'] then none
      else if numberOf digits < 4294967296 then some (numberOf digits, rest)
      else none
  | none => none

/-- A character of base64 with the alphabet that `+` and `/` belong to. -/
def isBase64 (c : Char) : Bool :=
  isAscii c && c != '-' && c != '_' && (Base64Url.sextet? c.toUInt8).isSome

/-- The octets of whole and partial groups of sextets. -/
def ofSextets : List Nat → List UInt8
  | p :: q :: r :: s :: rest => Base64Url.ofGroup [p, q, r, s] ++ ofSextets rest
  | group => Base64Url.ofGroup group

/-- Octets in the only way they are written, without padding. -/
def octets? (cs : List Char) : Option (List UInt8 × List Char) :=
  let part := cs.takeWhile isBase64
  let sextets := part.filterMap fun c => Base64Url.sextet? c.toUInt8
  let last := sextets.getLast?.getD 0
  let whole :=
    match sextets.length % 4 with
    | 0 => true
    | 2 => last % 16 == 0
    | 3 => last % 4 == 0
    | _ => false
  if whole then some (ofSextets sextets, cs.drop part.length) else none

namespace Written

/-- The version, if one is named. -/
def version? (cs : List Char) : Option (Nat × List Char) :=
  match after? "$v=" cs with
  | some rest => word? rest
  | none => some (firstVersion, cs)

/-- Read the variant: the text names it, or it is the first one. -/
def variant? (cs : List Char) : Option (Digest.Argon2.Variant × List Char) :=
  variants.findSome? fun (name, variant) =>
    (after? ("$argon2" ++ name) cs).bind fun rest =>
      if rest.head? = some '$' then some (variant, rest) else none

/-- Read a written digest that a text starts with. -/
def scan? (cs : List Char) : Option (Written × List Char) := do
  let (variant, cs) ← variant? cs
  let (version, cs) ← version? cs
  let (memory, cs) ← (after? "$m=" cs).bind word?
  let (passes, cs) ← (after? ",t=" cs).bind word?
  let (lanes, cs) ← (after? ",p=" cs).bind word?
  let (salt, cs) ← (after? "$" cs).bind octets?
  let (digest, cs) ← (after? "$" cs).bind octets?
  return (⟨⟨variant, version, ⟨memory, passes, lanes⟩⟩, salt, digest⟩, cs)

/-- Why a digest is never made. -/
def flaw? (w : Written) : Option Flaw :=
  let cost := w.recipe.cost
  if w.digest.length < 4 then some .shortDigest
  else if w.salt.length < leastSalt then some .shortSalt
  else if cost.memory < leastMemory ∨ cost.memory < 8 * cost.lanes then some .littleMemory
  else if cost.passes < 1 then some .fewPasses
  else if cost.lanes < 1 then some .fewLanes
  else if mostLanes < cost.lanes then some .manyLanes
  else none

/-- Read a written digest.  The text ends at the first NUL. -/
def read (text : String) : Except Flaw Written :=
  match scan? (text.toList.takeWhile (· != '\x00')) with
  | none => .error .unread
  | some (w, rest) =>
      match w.flaw? with
      | some flaw => .error flaw
      | none =>
          if rest ≠ [] then .error .unread
          else if mostMemory < w.recipe.cost.memory then .error .noMemory
          else .ok w

/-- The digest is that of a password. -/
def isOf (w : Written) (password : List UInt8) : Bool :=
  Digest.Argon2.hash w.recipe w.digest.length password w.salt == w.digest

end Written

/-! ## Outlines -/

/-- The parts of a text that is laid out as a written digest, unread. -/
structure Outline where
  variant : List Char
  version : Option (List Char)
  memory : List Char
  passes : List Char
  lanes : List Char
  key : Option (List Char)
  associated : Option (List Char)
  salt : Option (List Char)
  digest : Option (List Char)

namespace Outline

/-- A text is at its end, but for a line feed. -/
def atEnd (cs : List Char) : Bool :=
  cs == [] || cs == ['\n']

/-- The version part, if there is one. -/
def splitVersion (cs : List Char) : Option (List Char) × List Char :=
  match partAfter? "v=" Char.isDigit cs with
  | some (digits, '$' :: rest) => (some digits, rest)
  | _ => (none, cs)

/-- The parts for salt and digest, with which a text ends. -/
def ending? (cs : List Char) : Option (Option (List Char) × Option (List Char)) :=
  if atEnd cs then some (none, none)
  else
    match partAfter? "$" (· != '$') cs with
    | none => none
    | some (salt, rest) =>
        if rest.isEmpty then some (some salt, none)
        else
          match partAfter? "$" (· != '\n') rest with
          | some (digest, rest) => if atEnd rest then some (some salt, some digest) else none
          | none => none

/-- The parts of a text. -/
def of? (text : String) : Option Outline := do
  let inside : Char → Bool := fun c => c != ',' && c != '$'
  let (variant, cs) ← partAfter? "$argon2" Char.isLower text.toList
  let cs ← after? "$" cs
  let (version, cs) := splitVersion cs
  let (memory, cs) ← partAfter? "m=" Char.isDigit cs
  let (passes, cs) ← partAfter? ",t=" Char.isDigit cs
  let (lanes, cs) ← partAfter? ",p=" Char.isDigit cs
  let (key, cs) := optionalAfter ",keyid=" inside cs
  let (associated, cs) := optionalAfter ",data=" inside cs
  let (salt, digest) ← ending? cs
  return { variant, version, memory, passes, lanes, key, associated, salt, digest }

/-- Read a number of any size. -/
def number (digits : List Char) : Except Fault Nat :=
  if digits.length ≤ maxDigits then .ok (numberOf digits) else .error (.longNumber digits.length)

/-- Read octets, skipping what is no base64. -/
def octets (part : List Char) : Except Fault (List UInt8) :=
  if part.length % 4 = 1 then .error .broken
  else
    match Base64Url.decodeFrom 0 [] 0
        ((Base64Url.padded (part.map Char.toUInt8)).filter fun b =>
          b != '-'.toUInt8 && b != '_'.toUInt8) with
    | .ok octets => .ok octets
    | .error fault => .error (.notBase64 fault)

/-- A condition holds, or there is a fault. -/
def require (fault : Fault) (condition : Bool) : Except Fault Unit :=
  if condition then .ok () else .error fault

/-- The parts can be read, and none of them asks for what there is not. -/
def check (o : Outline) : Except Fault Unit := do
  require .keyed o.key.isNone
  let version ← o.version.elim (.ok firstVersion) number
  let memory ← number o.memory
  let passes ← number o.passes
  let lanes ← number o.lanes
  let salt ← o.salt.mapM octets
  let _ ← o.associated.mapM octets
  let _ ← o.digest.mapM octets
  match salt with
  | none => .error .unsalted
  | some salt => require .shortSalt (leastSalt ≤ salt.length)
  require (.fewPasses passes) (1 ≤ passes)
  require (.manyPasses passes) (passes ≤ mostPasses)
  require (.fewLanes lanes) (1 ≤ lanes)
  let name := String.ofList o.variant
  require (.unknownVariant name) (variants.lookup name).isSome
  require (.unknownVersion version) (version == firstVersion || lastVersion ≤ version)
  require (.laterVersion version) (version ≤ lastVersion)
  require (.littleMemory memory) (leastMemory ≤ memory)
  require (.scarceMemory memory lanes) (8 * lanes ≤ memory)
  require .associated o.associated.isNone

end Outline

/-- What is wrong with a text whose digest is not made, for a flaw. -/
def faultOf (flaw : Flaw) (text : String) : Fault :=
  match Outline.of? text with
  | none => .malformed
  | some outline =>
      match outline.check with
      | .error fault => fault
      | .ok () => .flawed flaw text

/-- Read a written digest; a text whose digest is not made has a fault. -/
def written (text : String) : Except Fault Written :=
  match notAscii? text with
  | some fault => .error (.notAscii fault)
  | none =>
      match Written.read text with
      | .ok w => .ok w
      | .error flaw => .error (faultOf flaw text)

end GeoRegistry.Password
