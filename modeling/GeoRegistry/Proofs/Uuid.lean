/-
# Proofs.Uuid -- an identifier is read from its text

The text of an identifier has its hyphens where they are looked for, and in between the
digits that it is made of; it can be taken for none of the other spellings, since no digit
is a brace or begins the name of a resource.
-/
import GeoRegistry.Proofs.Json.Literal
import GeoRegistry.Uuid

namespace GeoRegistry.Uuid

set_option autoImplicit false

open Text

theorem unhyphenate?_groups {a b c d e : List Char} (a8 : a.length = 8) (b4 : b.length = 4)
    (c4 : c.length = 4) (d4 : d.length = 4) (e12 : e.length = 12) :
    unhyphenate? (a ++ '-' :: b ++ '-' :: c ++ '-' :: d ++ '-' :: e) =
      some (a ++ b ++ c ++ d ++ e) := by
  simp [unhyphenate?, List.drop_append, List.drop_eq_nil_of_le, a8, b4, c4, d4, e12]

/-- Hyphens that are put between the groups are taken out again. -/
theorem unhyphenate?_hyphenate {cs : List Char} (size : cs.length = 32) :
    unhyphenate? (hyphenate cs) = some cs := by
  have join (m n : Nat) : (cs.drop m).take n ++ cs.drop (m + n) = cs.drop m := by
    rw [← List.drop_drop, List.take_append_drop]
  rw [hyphenate, unhyphenate?_groups (by simp [size]) (by simp [size]) (by simp [size])
    (by simp [size]) (by simp [size])]
  simp only [List.append_assoc, join 16 4, join 12 4, join 8 4, List.take_append_drop]

theorem ofPlain?_digits (id : Uuid) : ofPlain? (id.digits.map hexChar) = some id := by
  have read : (id.digits.map hexChar).mapM hexDigit? = some id.digits := by
    induction id.digits with
    | nil => rfl
    | cons d rest ih => simp [Json.hexDigit?_hexChar, ih]
  simp [ofPlain?, read, ofDigits?, id.size]

/-- No digit stands where another spelling begins. -/
theorem hexChar_plain (d : Fin 16) : hexChar d ≠ '\x7b' ∧ hexChar d ≠ 'u' := by
  revert d
  decide

theorem hexChar_ascii (d : Fin 16) : (hexChar d).toNat < 0x80 := by
  revert d
  decide

theorem text_ascii (id : Uuid) : ∀ c ∈ id.text.toList, c.toNat < 0x80 := by
  have digit : ∀ c ∈ id.digits.map hexChar, c.toNat < 0x80 := by
    intro c member
    obtain ⟨d, -, rfl⟩ := List.mem_map.1 member
    exact hexChar_ascii d
  have part (m n : Nat) : ∀ c ∈ ((id.digits.map hexChar).drop m).take n, c.toNat < 0x80 :=
    fun c member => digit c (List.mem_of_mem_drop (List.mem_of_mem_take member))
  have hyphen : '-'.toNat < 0x80 := by decide
  rw [text, String.toList_ofList, hyphenate]
  simp only [List.forall_mem_append, List.forall_mem_cons]
  exact ⟨⟨⟨⟨part 0 8, hyphen, part 8 4⟩, hyphen, part 12 4⟩, hyphen, part 16 4⟩, hyphen,
    fun c member => digit c (List.mem_of_mem_drop member)⟩

/-- **An identifier is read from its text.** -/
theorem ofText?_text (id : Uuid) : ofText? id.text = some id := by
  have digits : (id.digits.map hexChar).length = 32 := by simp [id.size]
  have length : (hyphenate (id.digits.map hexChar)).length = 36 := by
    simp [hyphenate, id.size]
  have plain : ofHyphenated? (hyphenate (id.digits.map hexChar)) = some id := by
    rw [ofHyphenated?, unhyphenate?_hyphenate digits]
    exact ofPlain?_digits id
  have head : ∃ d cs, hyphenate (id.digits.map hexChar) = hexChar d :: cs := by
    obtain ⟨d, ds, some_⟩ : ∃ d ds, id.digits = d :: ds :=
      List.exists_cons_of_ne_nil (List.ne_nil_of_length_pos (by simp [id.size]))
    exact ⟨d, _, by rw [some_, List.map_cons, hyphenate, List.take_succ_cons]; rfl⟩
  obtain ⟨d, cs, written⟩ := head
  obtain ⟨brace, letter⟩ := hexChar_plain d
  have unnamed : namePrefix.isPrefixOf (hexChar d :: cs) = false := by
    have opened : namePrefix = 'u' :: "rn:uuid:".toList := by decide
    simp [opened, List.isPrefixOf, letter.symm]
  rw [ofText?, text, String.toList_ofList]
  rw [written] at length plain ⊢
  rw [if_neg (by omega), if_neg (by simp [brace]), unnamed]
  simpa using plain

end GeoRegistry.Uuid
