/-
# Proofs.Text.WholeNumber -- whole numbers that are read can be written

A text that is read as a whole number has no more digits than can be written of an integer, so
that the number can be put into words again (`read_short`).
-/
import GeoRegistry.Proofs.Text.Numeral
import GeoRegistry.Text.WholeNumber

namespace GeoRegistry.Text.WholeNumber

set_option autoImplicit false

theorem mapM_asciiDigit?_lt {cs : List Char} {digits : List Nat}
    (read : cs.mapM asciiDigit? = some digits) : ∀ d ∈ digits, d < 10 := by
  induction cs generalizing digits with
  | nil =>
      obtain rfl := Option.some.inj read
      simp
  | cons c rest ih =>
      simp only [List.mapM_cons, Option.bind_eq_bind, Option.bind_eq_some_iff, Option.pure_def,
        Option.some.injEq] at read
      obtain ⟨d, first, others, more, rfl⟩ := read
      have digit : d < 10 := by
        unfold asciiDigit? at first
        split at first
        · next isDigit =>
          obtain ⟨low, high⟩ := digit_bounds isDigit
          obtain rfl := Option.some.inj first
          omega
        · cases first
      exact List.forall_mem_cons.2 ⟨digit, ih more⟩

theorem plain?_short {cs : List Char} {n : Int} (read : plain? cs = some n) :
    (Nat.toDigits 10 n.natAbs).length ≤ maxDigits := by
  unfold plain? at read
  obtain ⟨digits, taken, read⟩ := Option.bind_eq_some_iff.1 read
  have small := mapM_asciiDigit?_lt taken
  split at read
  · cases read
  · obtain rfl := Option.some.inj read
    decide
  · next d ds _ =>
    split at read
    · cases read
    · next fits =>
      obtain rfl := Option.some.inj read
      simp only [Bool.or_eq_true, decide_eq_true_eq, not_or, Nat.not_le] at fits
      rw [natAbs_signed]
      exact length_toDigits_ofDigits small fits.2 (by decide)

/-- **A whole number that is read is short enough to be written.** -/
theorem read_short {s : String} {n : Int} (made : read s = .ok n) :
    (Nat.toDigits 10 n.natAbs).length ≤ maxDigits := by
  simp only [read] at made
  split at made
  · cases made
  · split at made
    · next n' found =>
      obtain rfl := Except.ok.inj made
      obtain ⟨cs, -, plain⟩ := Option.bind_eq_some_iff.1 found
      exact plain?_short plain
    · cases made

end GeoRegistry.Text.WholeNumber
