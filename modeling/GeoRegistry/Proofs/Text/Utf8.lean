/-
# Proofs.Text.Utf8 -- the octets of texts

An octet below 128 is a character of its own and no part of any other one
(`mem_encode_iff`), so a text can be taken apart at such a character before or after it
is turned into octets.
-/
import GeoRegistry.Proofs.Text.Split
import GeoRegistry.Text.Surrogate
import GeoRegistry.Text.Utf8

namespace GeoRegistry.Text.Utf8

set_option autoImplicit false

theorem encode_ofList (cs : List Char) :
    encode (String.ofList cs) = cs.flatMap String.utf8EncodeChar := by
  rw [encode, String.toUTF8, String.toByteArray_ofList, List.utf8Encode]
  simp

@[simp] theorem encode_append (s t : String) : encode (s ++ t) = encode s ++ encode t := by
  simp [encode]

theorem encodeChar_ascii {c : Char} (ascii : c.toNat < 0x80) :
    String.utf8EncodeChar c = [c.toUInt8] := by
  have one : c.utf8Size = 1 := by
    rw [Char.utf8Size_eq_one_iff, UInt32.le_iff_toNat_le]
    exact Nat.le_of_lt_succ ascii
  rw [String.utf8EncodeChar_eq_singleton one, Char.toUInt8_val]

/-- An octet below 128 is only in the octets of its own character. -/
theorem mem_encodeChar {c : Char} {b : UInt8} (small : b.toNat < 0x80)
    (member : b ∈ String.utf8EncodeChar c) : b.toNat = c.toNat := by
  unfold String.utf8EncodeChar at member
  simp only at member
  split at member
  · next ascii =>
    obtain rfl := List.mem_singleton.1 member
    simp only [UInt8.toNat_ofNat']
    exact Nat.mod_eq_of_lt (by omega)
  · -- every octet of a longer character has its highest bit set
    split at member
    · simp only [List.mem_cons, List.not_mem_nil, or_false] at member
      rcases member with rfl | rfl <;> (simp only [UInt8.toNat_ofNat'] at small; omega)
    · split at member
      · simp only [List.mem_cons, List.not_mem_nil, or_false] at member
        rcases member with rfl | rfl | rfl <;> (simp only [UInt8.toNat_ofNat'] at small; omega)
      · simp only [List.mem_cons, List.not_mem_nil, or_false] at member
        rcases member with rfl | rfl | rfl | rfl <;>
          (simp only [UInt8.toNat_ofNat'] at small; omega)

/-- **The octets of ASCII text** are the numbers of its characters. -/
theorem encode_ascii {cs : List Char} (ascii : ∀ c ∈ cs, c.toNat < 0x80) :
    encode (String.ofList cs) = cs.map Char.toUInt8 := by
  rw [encode_ofList]
  induction cs with
  | nil => rfl
  | cons c rest ih =>
      rw [List.flatMap_cons, encodeChar_ascii (ascii c (.head _)),
        ih fun c member => ascii c (.tail _ member)]
      rfl

theorem toNat_toUInt8 {c : Char} (ascii : c.toNat < 0x80) : c.toUInt8.toNat = c.toNat := by
  rw [← Char.toUInt8_val]
  exact Nat.mod_eq_of_lt (Nat.lt_trans ascii (by decide))

/-- **An ASCII character is found among the octets of a text where it is in the text.** -/
theorem mem_encode_iff {s : String} {c : Char} (ascii : c.toNat < 0x80) :
    c.toUInt8 ∈ encode s ↔ c ∈ s.toList := by
  have number := toNat_toUInt8 ascii
  have whole : encode s = s.toList.flatMap String.utf8EncodeChar := by
    rw [← encode_ofList, String.ofList_toList]
  rw [whole, List.mem_flatMap]
  constructor
  · rintro ⟨c', member, octet⟩
    have same := mem_encodeChar (number ▸ ascii) octet
    rw [number] at same
    rwa [Char.toNat_inj.1 same]
  · intro member
    exact ⟨c, member, by rw [encodeChar_ascii ascii]; exact .head _⟩

end GeoRegistry.Text.Utf8

namespace GeoRegistry.Text

/-- ASCII text has octets. -/
theorem unencodable?_ascii {s : String} (ascii : ∀ c ∈ s.toList, c.toNat < 0x80) :
    unencodable? s = none := by
  have standIn : ∀ c ∈ s.toList, (!Surrogate.isStandIn c) = true := fun c member => by
    have small := ascii c member
    have other : ¬ Surrogate.shift ≤ c.toNat := by
      simp only [Surrogate.shift]
      omega
    simp [Surrogate.isStandIn, Surrogate.half?, other]
  have all : s.toList.takeWhile (!Surrogate.isStandIn ·) = s.toList := by
    simpa using takeWhile_run standIn stops_nil
  simp [unencodable?, all]

end GeoRegistry.Text
