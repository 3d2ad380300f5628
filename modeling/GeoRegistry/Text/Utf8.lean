/-
# Text.Utf8 -- texts as octets

`encode` writes the octets of a text and `decode?` reads them back, refusing
octets that are no text.  `decodeLossy` reads any octets: each longest piece
that could start a character and does not finish it becomes one replacement
character.
-/

namespace GeoRegistry.Text.Utf8

set_option autoImplicit false

/-- The octets of a text. -/
def encode (s : String) : List UInt8 :=
  s.toUTF8.data.toList

/-- A text with each octet as the character of its number. -/
def octetView (s : String) : String :=
  String.ofList ((encode s).map fun b => Char.ofNat b.toNat)

/-- The text of octets, if they are one. -/
def decode? (octets : List UInt8) : Option String :=
  String.fromUTF8? ⟨octets.toArray⟩

/-- What stands for octets that are no character. -/
def replacement : Char := '\ufffd'

/-- A character whose octets have been read in part: the bits so far, how many
octets are missing, and the range of the next one.  Nothing is missing between
characters. -/
structure Partial where
  bits : Nat := 0
  missing : Nat := 0
  least : Nat := 0x80
  greatest : Nat := 0xBF

/-- What a lead octet of more than one octet starts.  The range of the second
octet keeps out the surrogates, the numbers above the last character, and longer
forms of shorter characters. -/
def Partial.ofLead? (b : Nat) : Option Partial :=
  if b < 0xC2 then none
  else if b < 0xE0 then some { bits := b - 0xC0, missing := 1 }
  else if b = 0xE0 then some { bits := 0, missing := 2, least := 0xA0 }
  else if b = 0xED then some { bits := 0xD, missing := 2, greatest := 0x9F }
  else if b < 0xF0 then some { bits := b - 0xE0, missing := 2 }
  else if b = 0xF0 then some { bits := 0, missing := 3, least := 0x90 }
  else if b < 0xF4 then some { bits := b - 0xF0, missing := 3 }
  else if b = 0xF4 then some { bits := 4, missing := 3, greatest := 0x8F }
  else none

/-- Read an octet between characters. -/
def start (b : Nat) : List Char × Partial :=
  if b < 0x80 then ([Char.ofNat b], {})
  else
    match Partial.ofLead? b with
    | some p => ([], p)
    | none => ([replacement], {})

/-- Read the next octet: the characters that are settled by it, and what is
pending after it. -/
def step (p : Partial) (b : Nat) : List Char × Partial :=
  if p.missing = 0 then start b
  else if p.least ≤ b ∧ b ≤ p.greatest then
    let bits := 64 * p.bits + (b - 0x80)
    if p.missing = 1 then ([Char.ofNat bits], {}) else ([], { bits, missing := p.missing - 1 })
  else
    let (settled, next) := start b
    (replacement :: settled, next)

/-- Read octets after a pending character. -/
def lossyFrom (p : Partial) : List UInt8 → List Char
  | [] => if p.missing = 0 then [] else [replacement]
  | b :: rest =>
      let (settled, next) := step p b.toNat
      settled ++ lossyFrom next rest

/-- The text of any octets. -/
def decodeLossy (octets : List UInt8) : String :=
  String.ofList (lossyFrom {} octets)

/-- A text can be read back from its octets. -/
theorem decode?_encode (s : String) : decode? (encode s) = some s := by
  have octets : (⟨(encode s).toArray⟩ : ByteArray) = s.toByteArray := rfl
  rw [decode?, octets]
  simpa [String.fromUTF8?] using ⟨s.isValidUTF8, rfl⟩

end GeoRegistry.Text.Utf8
