/-
# Proofs.Json.Literal -- string literals give back their text

A character of a literal is written in one of four ways (`escapeChar_cases`): behind a
backslash, as itself, as the escape of its 16-bit unit, or as the escapes of a pair of
units.  What stands in for half of a pair is written as the escape of the half.  A reader
takes an escaped first half and an escaped second half behind it for one character, and
nothing else is changed on the way: what is read is the text with its halves joined
(`string_literal`).
-/
import GeoRegistry.Json.Parser
import GeoRegistry.Json.Printer
import GeoRegistry.Proofs.Text.Surrogate

namespace GeoRegistry.Json

set_option autoImplicit false

open Text

/-! ## Units -/

theorem hexDigit?_hexChar (d : Fin 16) : hexDigit? (hexChar d) = some d := by
  have all : ∀ d : Fin 16, hexDigit? (hexChar d) = some d := by decide
  exact all d

/-- Four digits are read as the unit they were written for. -/
theorem escapedUnit_hexUnit {n : Nat} (small : n < 0x10000) {rest : List Char} (more : rest ≠ []) :
    escapedUnit (hexUnit n ++ rest) = .ok (n, rest) := by
  obtain ⟨next, rest, rfl⟩ := List.exists_cons_of_ne_nil more
  have whole : n / 4096 % 16 * 4096 + n / 256 % 16 * 256 + n / 16 % 16 * 16 + n % 16 = n := by
    omega
  simp [hexUnit, escapedUnit, unit?, hexDigit?_hexChar, lastHex, Fin.ofNat, whole]

theorem isLow_of_isHigh {n : Nat} (high : Surrogate.isHigh n = true) :
    Surrogate.isLow n = false := by
  simp only [Surrogate.isHigh, Surrogate.isLow, Bool.and_eq_true, decide_eq_true_eq,
    Bool.and_eq_false_iff, decide_eq_false_iff_not] at high ⊢
  omega

/-- The text does not go on with the escape of a second half. -/
def NotLow (rest : List Char) : Prop :=
  ∀ more, rest = '\\' :: 'u' :: more → 5 ≤ more.length →
    ∃ low rest', escapedUnit more = .ok (low, rest') ∧ Surrogate.isLow low = false

theorem notLow_unitEscape {n : Nat} (small : n < 0x10000) (other : Surrogate.isLow n = false)
    (rest : List Char) : NotLow (unitEscape n ++ rest) := by
  intro more same long
  simp only [unitEscape, List.cons_append, List.cons.injEq, true_and] at same
  have some_ : rest ≠ [] := by
    rintro rfl
    simp [← same, hexUnit] at long
  exact ⟨n, rest, by rw [← same, escapedUnit_hexUnit small some_], other⟩

/-- A unit is read as its character where it is not half of a pair that goes on. -/
theorem escapedChar_alone {n : Nat} (small : n < 0x10000) {rest : List Char} (more : rest ≠ [])
    (alone : Surrogate.isHigh n = true → NotLow rest) :
    escapedChar (hexUnit n ++ rest) = .ok (Surrogate.charOf n, rest) := by
  rw [escapedChar, escapedUnit_hexUnit small more]
  simp only
  split
  · next after =>
    split
    · next high =>
      obtain ⟨low, rest', read, other⟩ := alone high.1 _ rfl high.2
      simp [read, other]
    · rfl
  · rfl

/-- The units of a pair are read as one character. -/
theorem escapedChar_pair {high low : Nat} (first : Surrogate.isHigh high = true)
    (second : Surrogate.isLow low = true) {rest : List Char} (more : rest ≠ []) :
    escapedChar (hexUnit high ++ (unitEscape low ++ rest)) =
      .ok (Surrogate.pair high low, rest) := by
  have units : high < 0x10000 ∧ low < 0x10000 := by
    simp only [Surrogate.isHigh, Surrogate.isLow, Bool.and_eq_true, decide_eq_true_eq]
      at first second
    omega
  have long : 5 ≤ (hexUnit low ++ rest).length := by
    have := List.length_pos_iff.2 more
    simp [hexUnit]
    omega
  rw [escapedChar, escapedUnit_hexUnit units.1 (by simp [unitEscape])]
  simp only [unitEscape, List.cons_append]
  rw [if_pos ⟨first, long⟩, escapedUnit_hexUnit units.2 more]
  simp [second]

/-! ## Characters -/

/-- The number of a character is no half. -/
theorem toNat_whole (c : Char) :
    Surrogate.isHigh c.toNat = false ∧ Surrogate.isLow c.toNat = false := by
  have valid : c.toNat < 0xD800 ∨ 0xDFFF < c.toNat := by
    rcases c.valid with low | high
    · exact .inl low
    · exact .inr high.1
  simp only [Surrogate.isHigh, Surrogate.isLow, Bool.and_eq_false_iff, decide_eq_false_iff_not]
  omega

theorem charOf_toNat (c : Char) : Surrogate.charOf c.toNat = c := by
  simp [Surrogate.charOf, toNat_whole, Char.ofNat_toNat]

theorem half?_eq_some {c : Char} {n : Nat} (half : Surrogate.half? c = some n) :
    c.toNat = n + Surrogate.shift ∧ (Surrogate.isHigh n || Surrogate.isLow n) = true := by
  unfold Surrogate.half? at half
  simp only at half
  split at half
  · next there =>
    obtain rfl := Option.some.inj half
    exact ⟨by omega, there.2⟩
  · cases half

theorem charOf_half {c : Char} {n : Nat} (half : Surrogate.half? c = some n) :
    Surrogate.charOf n = c := by
  obtain ⟨number, there⟩ := half?_eq_some half
  rw [Surrogate.charOf, if_pos there, ← number, Char.ofNat_toNat]

theorem half_lt {n : Nat} (half : (Surrogate.isHigh n || Surrogate.isLow n) = true) :
    n < 0x10000 := by
  simp only [Surrogate.isHigh, Surrogate.isLow, Bool.or_eq_true, Bool.and_eq_true,
    decide_eq_true_eq] at half
  omega

/-- The units of a character beyond the first plane make it up. -/
theorem pair_units {c : Char} (beyond : 0x10000 ≤ c.toNat) :
    Surrogate.isHigh (0xD800 + (c.toNat - 0x10000) / 0x400) = true ∧
      Surrogate.isLow (0xDC00 + (c.toNat - 0x10000) % 0x400) = true ∧
      Surrogate.pair (0xD800 + (c.toNat - 0x10000) / 0x400)
        (0xDC00 + (c.toNat - 0x10000) % 0x400) = c := by
  have last : c.toNat < 0x110000 := by
    rcases c.valid with low | high
    · exact Nat.lt_trans low (by decide)
    · exact high.2
  refine ⟨?_, ?_, ?_⟩
  · simp only [Surrogate.isHigh, Bool.and_eq_true, decide_eq_true_eq]
    omega
  · simp only [Surrogate.isLow, Bool.and_eq_true, decide_eq_true_eq]
    omega
  · have number : 0x10000 + (0xD800 + (c.toNat - 0x10000) / 0x400 - 0xD800) * 0x400 +
        (0xDC00 + (c.toNat - 0x10000) % 0x400 - 0xDC00) = c.toNat := by
      omega
    rw [Surrogate.pair, number, Char.ofNat_toNat]

/-- **The four ways to write a character.** -/
theorem escapeChar_cases (c : Char) :
    (∃ e, escapeChar c = ['\\', e] ∧ e ≠ 'u' ∧ shortEscape? e = some c) ∨
      (escapeChar c = [c] ∧ c ≠ '"' ∧ c ≠ '\\' ∧ ¬ c.toNat < 0x20) ∨
      (c.toNat < 0x10000 ∧ escapeChar c = unitEscape c.toNat) ∨
      ∃ high low, Surrogate.isHigh high = true ∧ Surrogate.isLow low = true ∧
        Surrogate.pair high low = c ∧ escapeChar c = unitEscape high ++ unitEscape low := by
  by_cases short : c ∈ ['"', '\\', '\n', '\r', '\t', '\x0c', '\x08']
  · refine .inl ?_
    simp only [List.mem_cons, List.not_mem_nil, or_false] at short
    rcases short with rfl | rfl | rfl | rfl | rfl | rfl | rfl <;>
      exact ⟨_, rfl, by decide, by decide⟩
  · refine .inr ?_
    simp only [List.mem_cons, List.not_mem_nil, or_false, not_or] at short
    obtain ⟨quote, backslash, line, back, tab, page, erase⟩ := short
    have written : escapeChar c =
        if 0x20 ≤ c.toNat ∧ c.toNat ≤ 0x7E then [c]
        else if c.toNat < 0x10000 then unitEscape c.toNat
        else unitEscape (0xD800 + (c.toNat - 0x10000) / 0x400) ++
          unitEscape (0xDC00 + (c.toNat - 0x10000) % 0x400) := by
      rw [escapeChar, if_neg quote, if_neg backslash, if_neg line, if_neg back, if_neg tab,
        if_neg page, if_neg erase]
    rw [written]
    split
    · next plain => exact .inl ⟨rfl, quote, backslash, by omega⟩
    split
    · next small => exact .inr (.inl ⟨small, rfl⟩)
    · next beyond =>
      obtain ⟨high, low, whole⟩ := pair_units (c := c) (by omega)
      exact .inr (.inr ⟨_, _, high, low, whole, rfl⟩)

/-! ## Reading one character -/

theorem escapes_cons (c : Char) (rest : List Char) :
    escapes (c :: rest) = escaped c ++ escapes rest :=
  List.flatMap_cons ..

theorem escaped_half {c : Char} {n : Nat} (half : Surrogate.half? c = some n) :
    escaped c = unitEscape n := by
  rw [escaped, half]

theorem stringChar_unit (start n : Nat) (rest : List Char) :
    stringChar start (unitEscape n ++ rest) =
      (escapedChar (hexUnit n ++ rest)).map fun r => (some r.1, r.2) :=
  rfl

theorem stringChar_short (start : Nat) {e c : Char} (other : e ≠ 'u')
    (short : shortEscape? e = some c) (rest : List Char) :
    stringChar start ('\\' :: e :: rest) = .ok (some c, rest) := by
  rw [stringChar.eq_5 _ _ _ (by simpa using other)]
  simp [short]

theorem stringChar_plain (start : Nat) {c : Char} (quote : c ≠ '"') (backslash : c ≠ '\\')
    (visible : ¬ c.toNat < 0x20) (rest : List Char) :
    stringChar start (c :: rest) = .ok (some c, rest) := by
  rw [stringChar.eq_6 _ _ _ quote, if_neg visible]
  · exact fun same _ => backslash same
  · exact fun _ same _ => backslash same
  · exact fun _ _ same _ => backslash same

/-! ## Reading a literal -/

/-- A literal goes on with a second half only where its text does. -/
theorem notLow_escaped {c d : Char} {high : Nat} (half : Surrogate.half? c = some high)
    (first : Surrogate.isHigh high = true) (apart : Surrogate.whole? c d = none)
    (after : List Char) : NotLow (escaped d ++ after) := by
  unfold escaped
  split
  · next n here =>
    have low : Surrogate.isLow n = false := by
      simpa [Surrogate.whole?, half, here, first] using apart
    exact notLow_unitEscape (half_lt (half?_eq_some here).2) low _
  · rcases escapeChar_cases d with
      ⟨e, written, unmarked, -⟩ | ⟨written, -, backslash, -⟩ | ⟨small, written⟩ |
        ⟨high, low, first, -, -, written⟩
    · intro more same
      simp [written, unmarked] at same
    · intro more same
      simp [written, backslash] at same
    · rw [written]
      exact notLow_unitEscape small (toNat_whole d).2 after
    · rw [written, List.append_assoc]
      exact notLow_unitEscape (half_lt (by simp [first])) (isLow_of_isHigh first) _

/-- A character that is no half is read as it was written. -/
theorem stringChar_escapeChar (start : Nat) (c : Char) {after : List Char} (more : after ≠ []) :
    stringChar start (escapeChar c ++ after) = .ok (some c, after) := by
  rcases escapeChar_cases c with
    ⟨e, written, unmarked, short⟩ | ⟨written, quote, backslash, visible⟩ | ⟨small, written⟩ |
      ⟨high, low, first, second, whole, written⟩
  · rw [written]
    exact stringChar_short start unmarked short _
  · rw [written]
    exact stringChar_plain start quote backslash visible _
  · rw [written, stringChar_unit, escapedChar_alone small more, charOf_toNat]
    · rfl
    · intro high
      simp [toNat_whole] at high
  · rw [written, List.append_assoc, stringChar_unit, escapedChar_pair first second more, whole]
    rfl

/-- **A written character is read**, and no more than it, unless it is a first half and the
text goes on with a second one. -/
theorem stringChar_escaped (start : Nat) (c : Char) {after : List Char} (more : after ≠ [])
    (alone : ∀ high, Surrogate.half? c = some high → Surrogate.isHigh high = true →
      NotLow after) :
    stringChar start (escaped c ++ after) = .ok (some c, after) := by
  unfold escaped
  split
  · next n half =>
    rw [stringChar_unit, escapedChar_alone (half_lt (half?_eq_some half).2) more (alone n half),
      charOf_half half]
    rfl
  · exact stringChar_escapeChar start c more

/-- Two halves of a character are read as the character. -/
theorem stringChar_whole (start : Nat) {c d whole : Char} (made : Surrogate.whole? c d = some whole)
    {after : List Char} (more : after ≠ []) :
    stringChar start (escaped c ++ (escaped d ++ after)) = .ok (some whole, after) := by
  obtain ⟨high, low, first, second, isHigh, isLow, pair⟩ := Surrogate.whole?_eq_some made
  rw [escaped_half first, escaped_half second, stringChar_unit, escapedChar_pair isHigh isLow more,
    pair]
  rfl

theorem stringBody_cons {start fuel : Nat} {c : Char} {cs rest after tail : List Char}
    (read : stringChar start rest = .ok (some c, after))
    (later : stringBody start fuel after = .ok (cs, tail)) :
    stringBody start (fuel + 1) rest = .ok (c :: cs, tail) := by
  rw [stringBody, read]
  simp only [later]
  rfl

/-- **The characters of a literal are read up to its closing quote**, with halves joined.  The
induction is along the joining: the reader takes one step for each character that it reads. -/
theorem stringBody_escapes (start : Nat) (cs tail : List Char) {fuel : Nat}
    (enough : cs.length < fuel) :
    stringBody start fuel (escapes cs ++ '"' :: tail) = .ok (Surrogate.joined cs, tail) := by
  fun_induction Surrogate.joined cs generalizing fuel with
  | case1 c d rest whole made ih =>
      simp only [List.length_cons] at enough
      obtain ⟨fuel, rfl⟩ := Nat.exists_eq_add_one.2 (Nat.zero_lt_of_lt enough)
      rw [escapes_cons, escapes_cons, List.append_assoc, List.append_assoc]
      exact stringBody_cons (stringChar_whole start made (by simp)) (ih (by omega))
  | case2 c d rest apart ih =>
      simp only [List.length_cons] at enough ih
      obtain ⟨fuel, rfl⟩ := Nat.exists_eq_add_one.2 (Nat.zero_lt_of_lt enough)
      rw [escapes_cons, List.append_assoc]
      refine stringBody_cons (stringChar_escaped start c (by simp) ?_) (ih (by omega))
      intro high half first
      rw [escapes_cons, List.append_assoc]
      exact notLow_escaped half first apart _
  | case3 cs short =>
      obtain ⟨fuel, rfl⟩ := Nat.exists_eq_add_one.2 (Nat.zero_lt_of_lt enough)
      cases cs with
      | nil => rfl
      | cons c rest =>
          cases rest with
          | nil =>
              obtain ⟨fuel, rfl⟩ := Nat.exists_eq_add_one.2 (Nat.lt_of_succ_lt_succ enough)
              rw [escapes_cons, List.append_assoc]
              refine stringBody_cons (stringChar_escaped start c (by simp) ?_) rfl
              intro high _ _ more same
              simp [escapes] at same
          | cons d rest => exact (short c d rest rfl).elim

theorem escaped_ne_nil (c : Char) : escaped c ≠ [] := by
  have unit (n : Nat) : unitEscape n ≠ [] := by simp [unitEscape]
  unfold escaped
  split
  · exact unit _
  · rcases escapeChar_cases c with
      ⟨e, written, -⟩ | ⟨written, -⟩ | ⟨-, written⟩ | ⟨high, low, -, -, -, written⟩ <;>
        simp [written, unit]

/-- A text is not longer than what is written for it. -/
theorem length_le_escapes (cs : List Char) : cs.length ≤ (escapes cs).length := by
  induction cs with
  | nil => simp
  | cons c rest ih =>
      have := List.length_pos_iff.2 (escaped_ne_nil c)
      rw [escapes_cons, List.length_append, List.length_cons]
      omega

/-- **A string literal gives back its text**, with the halves of characters in it joined. -/
theorem string_literal (s : String) (tail : List Char) :
    string (escapes s.toList ++ '"' :: tail) = .ok (joinedText s, tail) := by
  have enough : s.toList.length < (escapes s.toList ++ '"' :: tail).length + 1 := by
    have := length_le_escapes s.toList
    simp
    omega
  rw [string, stringBody_escapes _ _ _ enough]
  rfl

end GeoRegistry.Json
