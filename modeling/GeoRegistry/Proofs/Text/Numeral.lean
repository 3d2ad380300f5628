/-
# Proofs.Text.Numeral -- integers as they are written

An integer is written as a minus, if it is negative, and the decimal digits of its size
without zeros in front; an integer literal that is written so is read as the integer.
-/
import GeoRegistry.Text.IntegerLiteral
import GeoRegistry.Proofs.Text.Split

namespace GeoRegistry.Text

set_option autoImplicit false

/-! ## Digits -/

theorem digit_bounds {c : Char} (digit : c.isDigit = true) : 48 ≤ c.toNat ∧ c.toNat ≤ 57 := by
  simp only [Char.isDigit, Bool.and_eq_true, decide_eq_true_eq, ge_iff_le,
    UInt32.le_iff_toNat_le] at digit
  exact digit

theorem isDigit_of_written {n : Nat} {c : Char} (member : c ∈ Nat.toDigits 10 n) :
    c.isDigit = true :=
  Nat.isDigit_of_mem_toDigits (by decide) (by decide) member

theorem ofDigits_toDigits (n : Nat) :
    ofDigits ((Nat.toDigits 10 n).map fun c => c.toNat - 48) = n := by
  have read := Nat.ofDigitChars_ten_toDigits (n := n)
  rw [Nat.ofDigitChars_eq_foldl] at read
  rw [ofDigits, List.foldl_map]
  exact read

/-- Digits stand for a number that has no more of them. -/
theorem ofDigits_lt {digits : List Nat} (small : ∀ d ∈ digits, d < 10) :
    ofDigits digits < Nat.pow 10 digits.length := by
  have grown (n : Nat) :
      digits.foldl (fun n d => 10 * n + d) n < (n + 1) * Nat.pow 10 digits.length := by
    induction digits generalizing n with
    | nil => simp
    | cons d rest ih =>
        have digit := small d (.head _)
        have more := ih (fun d member => small d (.tail _ member)) (10 * n + d)
        have step : (10 * n + d + 1) * Nat.pow 10 rest.length ≤
            (n + 1) * 10 * Nat.pow 10 rest.length :=
          Nat.mul_le_mul_right _ (by omega)
        have whole : (n + 1) * Nat.pow 10 (rest.length + 1) =
            (n + 1) * 10 * Nat.pow 10 rest.length := by
          rw [Nat.mul_assoc, Nat.mul_comm 10]
          rfl
        rw [List.foldl_cons, List.length_cons, whole]
        exact Nat.lt_of_lt_of_le more step
  simpa [ofDigits] using grown 0

/-- So they are enough to write it. -/
theorem length_toDigits_ofDigits {digits : List Nat} {k : Nat} (small : ∀ d ∈ digits, d < 10)
    (fits : digits.length ≤ k) (some_ : 0 < k) :
    (Nat.toDigits 10 (ofDigits digits)).length ≤ k := by
  rw [Nat.length_toDigits_le_iff (by decide) some_]
  exact Nat.lt_of_lt_of_le (ofDigits_lt small) (Nat.pow_le_pow_right (by decide) fits)

/-- A number is written as a zero, or without one in front. -/
theorem toDigits_head (n : Nat) :
    Nat.toDigits 10 n = ['0'] ∨ (Nat.toDigits 10 n).head? ≠ some '0' := by
  induction n using Nat.strongRecOn with
  | ind n ih =>
      rw [Nat.toDigits_eq_if (by decide)]
      split
      · by_cases zero : n = 0 <;> simp [zero]
      · next large =>
        -- the digits before the last one are those of a smaller number that is not zero
        right
        obtain ⟨c, cs, written⟩ := List.exists_cons_of_ne_nil (Nat.toDigits_ne_nil (n := n / 10))
        rw [written]
        rcases ih (n / 10) (by omega) with alone | other
        · have read := Nat.ofDigitChars_ten_toDigits (n := n / 10)
          simp only [alone, Nat.ofDigitChars_cons, Nat.ofDigitChars_nil] at read
          change 0 = n / 10 at read
          omega
        · simpa [written] using other

/-! ## Integers -/

theorem toList_toString (n : Int) :
    (toString n).toList =
      if n < 0 then '-' :: Nat.toDigits 10 n.natAbs else Nat.toDigits 10 n.natAbs := by
  rw [Int.toString_eq_repr, Int.repr_eq_if]
  by_cases negative : n < 0
  · have size : (-n).toNat = n.natAbs := by omega
    rw [if_neg (by omega), if_pos negative, String.toList_append, Nat.toList_repr, size]
    rfl
  · have size : n.toNat = n.natAbs := by omega
    rw [if_pos (by omega), if_neg negative, Nat.toList_repr, size]

@[simp] theorem natAbs_signed (negative : Bool) (n : Nat) : (signed negative n).natAbs = n := by
  cases negative <;> simp [signed]

theorem signed_natAbs (n : Int) : signed (decide (n < 0)) n.natAbs = n := by
  by_cases negative : n < 0
  · simp only [signed, negative, decide_true, if_true]
    omega
  · simp only [signed, negative, decide_false, Bool.false_eq_true, if_false]
    omega

/-! ## Reading them back -/

theorem decimalDigit?_of_isDigit {c : Char} (digit : c.isDigit = true) :
    decimalDigit? c = some (c.toNat - 48) := by
  obtain ⟨low, high⟩ := digit_bounds digit
  rw [decimalDigit?, digitZeros, List.find?_cons_of_pos (by simp; omega)]
  rfl

/-- Digits are a run. -/
theorem digitRun?_digits {cs : List Char} (digits : ∀ c ∈ cs, c.isDigit = true) :
    digitRun? decimalDigit? false cs = some (cs.map fun c => c.toNat - 48) := by
  induction cs with
  | nil => rfl
  | cons c rest ih =>
      have digit := digits c (.head _)
      have other : c ≠ '_' := by
        rintro rfl
        simp at digit
      rw [digitRun?, if_neg other, decimalDigit?_of_isDigit digit]
      simp [ih fun c member => digits c (.tail _ member)]

theorem digitRun?_toDigits (n : Nat) :
    digitRun? decimalDigit? true (Nat.toDigits 10 n) =
      some ((Nat.toDigits 10 n).map fun c => c.toNat - 48) := by
  have run := digitRun?_digits fun c => isDigit_of_written (n := n) (c := c)
  obtain ⟨c, cs, written⟩ := List.exists_cons_of_ne_nil (Nat.toDigits_ne_nil (b := 10) (n := n))
  have other : c ≠ '_' := by
    rintro rfl
    exact Nat.underscore_not_in_toDigits (n := n) (by simp [written])
  rw [written] at run ⊢
  rwa [digitRun?, if_neg other] at run ⊢

/-- A text that neither begins nor ends with a character of a class keeps its ends. -/
theorem trimBy_of_stops {drop : Char → Bool} {cs : List Char} (start : Stops drop cs)
    (finish : Stops drop cs.reverse) : trimBy drop cs = cs := by
  rw [trimBy, start.dropWhile_eq, finish.dropWhile_eq, List.reverse_reverse]

/-- No white space is written with an integer. -/
theorem not_isWhiteSpace_written {n : Int} {c : Char} (member : c ∈ (toString n).toList) :
    isWhiteSpace c = false := by
  have sign : isWhiteSpace '-' = false := by decide
  have digit {c : Char} (digit : c.isDigit = true) : isWhiteSpace c = false := by
    obtain ⟨low, high⟩ := digit_bounds digit
    simp [isWhiteSpace, inRanges, whiteSpaceRanges]
    omega
  rw [toList_toString] at member
  split at member
  · rcases List.mem_cons.1 member with rfl | member
    · exact sign
    · exact digit (isDigit_of_written member)
  · exact digit (isDigit_of_written member)

/-- **What is written for an integer is read as the integer**, unless it is too long. -/
theorem readInteger_toString {n : Int}
    (short : (Nat.toDigits 10 n.natAbs).length ≤ maxDigits) :
    readInteger (toString n).toList = .ok n := by
  have trimmed : trimBy isWhiteSpace (toString n).toList = (toString n).toList := by
    refine trimBy_of_stops (.of_all fun c member => not_isWhiteSpace_written member)
      (.of_all fun c member => not_isWhiteSpace_written (List.mem_reverse.1 member))
  have sign : splitSign (toString n).toList = (decide (n < 0), Nat.toDigits 10 n.natAbs) := by
    rw [toList_toString]
    split
    · next negative => simp [splitSign, negative]
    · next positive =>
      obtain ⟨c, cs, written⟩ :=
        List.exists_cons_of_ne_nil (Nat.toDigits_ne_nil (b := 10) (n := n.natAbs))
      have digit : c.isDigit = true := isDigit_of_written (n := n.natAbs) (by simp [written])
      rw [written, splitSign.eq_3]
      · simp [positive]
      · rintro rest ⟨rfl, -⟩
        simp at digit
      · rintro rest ⟨rfl, -⟩
        simp at digit
  rw [readInteger, trimmed, sign]
  simp only [digitRun?_toDigits, List.length_map, short, if_true, ofDigits_toDigits,
    signed_natAbs]

end GeoRegistry.Text
