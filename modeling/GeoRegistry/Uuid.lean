/-
# Uuid -- 128-bit identifiers

An identifier is 32 hexadecimal digits.  It is written in lower case with
hyphens, in groups of 8, 4, 4, 4 and 12; it is read in either case, with or
without the hyphens, and with hyphens also in braces or after `urn:uuid:`.
-/
import GeoRegistry.Text.Digit

namespace GeoRegistry

set_option autoImplicit false

structure Uuid where
  digits : List (Fin 16)
  size : digits.length = 32
  deriving DecidableEq, Repr

namespace Uuid

open Text

/-- Write hyphens between the groups of 32 characters. -/
def hyphenate (cs : List Char) : List Char :=
  cs.take 8 ++ '-' :: (cs.drop 8).take 4 ++ '-' :: (cs.drop 12).take 4 ++
    '-' :: (cs.drop 16).take 4 ++ '-' :: cs.drop 20

/-- Take the hyphens out of a text that has one after each group. -/
def unhyphenate? (cs : List Char) : Option (List Char) :=
  if cs.length = 36 ∧ cs[8]? = some '-' ∧ cs[13]? = some '-' ∧ cs[18]? = some '-' ∧
      cs[23]? = some '-' then
    some (cs.take 8 ++ (cs.drop 9).take 4 ++ (cs.drop 14).take 4 ++ (cs.drop 19).take 4 ++
      cs.drop 24)
  else none

/-- The identifier with the given digits, when they are 32. -/
def ofDigits? (digits : List (Fin 16)) : Option Uuid :=
  if size : digits.length = 32 then some ⟨digits, size⟩ else none

/-- Read digits without hyphens. -/
def ofPlain? (cs : List Char) : Option Uuid :=
  (cs.mapM hexDigit?).bind ofDigits?

/-- Read digits with hyphens. -/
def ofHyphenated? (cs : List Char) : Option Uuid :=
  (unhyphenate? cs).bind ofPlain?

/-- The prefix of the resource name of an identifier. -/
def namePrefix : List Char := "urn:uuid:".toList

/-- Read an identifier in any of its spellings. -/
def ofText? (s : String) : Option Uuid :=
  let cs := s.toList
  if cs.length = 32 then ofPlain? cs
  else if cs.head? = some '\x7b' ∧ cs.getLast? = some '\x7d' then
    ofHyphenated? (cs.drop 1).dropLast
  else if namePrefix.isPrefixOf cs then ofHyphenated? (cs.drop namePrefix.length)
  else ofHyphenated? cs

/-- The text of an identifier. -/
def text (id : Uuid) : String :=
  String.ofList (hyphenate (id.digits.map hexChar))

/-- The digits of an identifier read as one number. -/
def toNat (id : Uuid) : Nat :=
  id.digits.foldl (fun n d => 16 * n + d.val) 0

end Uuid

end GeoRegistry
