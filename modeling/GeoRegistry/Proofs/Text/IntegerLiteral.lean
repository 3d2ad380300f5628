/-
# Proofs.Text.IntegerLiteral -- which texts are integer literals, and what they stand for

`IsLiteral` is the grammar: white space, a sign, digits of any script with single underscores
between them, and white space again.  A text that is spelled so is read as what it stands for,
unless it has too many digits (`IsLiteral.readInteger_eq`), and every other text is malformed
(`readInteger_eq_malformed_iff`).

No digit is white space, a sign or an underscore, so the parts of a literal can be told apart:
that is looked up once in the table of digits, and everything else follows from it.
-/
import GeoRegistry.Proofs.Text.Blank
import GeoRegistry.Proofs.Text.Numeral
import Mathlib.Data.Nat.Digits.Defs

namespace GeoRegistry.Text

set_option autoImplicit false

/-! ## Digits -/

/-- A character is the digit of a value: it comes so many places after the zero of its script. -/
def IsDigit (c : Char) (d : Nat) : Prop :=
  d < 10 ∧ ∃ start ∈ digitZeros, c.toNat = start + d

theorem digitZeros_apart : ∀ start ∈ digitZeros, ∀ other ∈ digitZeros,
    start = other ∨ start + 10 ≤ other ∨ other + 10 ≤ start := by
  decide +kernel

theorem decimalDigit?_eq_some_iff {c : Char} {d : Nat} :
    decimalDigit? c = some d ↔ IsDigit c d := by
  rw [decimalDigit?, Option.map_eq_some_iff]
  constructor
  · rintro ⟨start, found, rfl⟩
    have near := List.find?_some found
    simp only [Bool.and_eq_true, decide_eq_true_eq] at near
    exact ⟨by omega, start, List.mem_of_find?_eq_some found, by omega⟩
  · rintro ⟨small, start, member, place⟩
    cases found : digitZeros.find? fun z => z ≤ c.toNat && c.toNat ≤ z + 9 with
    | none =>
        have far := List.find?_eq_none.1 found start member
        simp only [Bool.and_eq_true, decide_eq_true_eq] at far
        omega
    | some other =>
        have near := List.find?_some found
        simp only [Bool.and_eq_true, decide_eq_true_eq] at near
        -- the runs do not overlap, so the first one that has the character is the only one
        have same := digitZeros_apart start member other (List.mem_of_find?_eq_some found)
        exact ⟨other, rfl, by omega⟩

namespace IsDigit

variable {c : Char} {d : Nat}

theorem ne (digit : IsDigit c d) {other : Char} (none_ : decimalDigit? other = none) :
    c ≠ other := by
  rintro rfl
  rw [decimalDigit?_eq_some_iff.2 digit] at none_
  cases none_

theorem isWhiteSpace_eq (digit : IsDigit c d) : isWhiteSpace c = false := by
  obtain ⟨small, start, member, place⟩ := digit
  have solid : ∀ start ∈ digitZeros, ∀ d < 10, inRanges whiteSpaceRanges (start + d) = false := by
    decide +kernel
  rw [isWhiteSpace, place]
  exact solid start member d small

end IsDigit

/-! ## Runs of digits -/

/-- Digits with single underscores between them, and their values. -/
inductive IsRun : List Char → List Nat → Prop where
  | last {c : Char} {d : Nat} (digit : IsDigit c d) : IsRun [c] [d]
  | next {c : Char} {d : Nat} {cs : List Char} {digits : List Nat} (digit : IsDigit c d)
      (rest : IsRun cs digits) : IsRun (c :: cs) (d :: digits)
  | apart {c : Char} {d : Nat} {cs : List Char} {digits : List Nat} (digit : IsDigit c d)
      (rest : IsRun cs digits) : IsRun (c :: '_' :: cs) (d :: digits)

section Runs

variable {cs : List Char} {digits : List Nat}

theorem digitRun?_digit {c : Char} {d : Nat} (digit : IsDigit c d) (pending : Bool)
    (rest : List Char) :
    digitRun? decimalDigit? pending (c :: rest) =
      (digitRun? decimalDigit? false rest).map (d :: ·) := by
  have other : c ≠ '_' := digit.ne (by decide)
  rw [digitRun?, if_neg other, decimalDigit?_eq_some_iff.2 digit]

theorem digitRun?_underscore (digit? : Char → Option Nat) (rest : List Char) :
    digitRun? digit? false ('_' :: rest) = digitRun? digit? true rest := by
  simp [digitRun?]

/-- A run is read, whether or not a digit must come first. -/
theorem IsRun.digitRun?_eq (run : IsRun cs digits) (pending : Bool) :
    digitRun? decimalDigit? pending cs = some digits := by
  induction run generalizing pending with
  | last digit => rw [digitRun?_digit digit, digitRun?]; rfl
  | next digit _ ih => rw [digitRun?_digit digit, ih]; rfl
  | apart digit _ ih => rw [digitRun?_digit digit, digitRun?_underscore, ih]; rfl

/-- What is read is a run.  Where no digit must come first there may also be nothing, or an
underscore in front. -/
theorem isRun_of_digitRun? {pending : Bool}
    (read : digitRun? decimalDigit? pending cs = some digits) :
    IsRun cs digits ∨ pending = false ∧
      (cs = [] ∧ digits = [] ∨ ∃ rest, cs = '_' :: rest ∧ IsRun rest digits) := by
  -- both states at once: behind a digit the text is read in one, behind an underscore in the other
  induction cs generalizing pending digits with
  | nil =>
      cases pending with
      | true => cases read
      | false => exact .inr ⟨rfl, .inl ⟨rfl, (Option.some.inj read).symm⟩⟩
  | cons c rest ih =>
      by_cases underscore : c = '_'
      · subst underscore
        cases pending with
        | true => simp [digitRun?] at read
        | false =>
            rw [digitRun?_underscore] at read
            rcases ih read with run | ⟨free, -⟩
            · exact .inr ⟨rfl, .inr ⟨rest, rfl, run⟩⟩
            · cases free
      · rw [digitRun?, if_neg underscore] at read
        cases value : decimalDigit? c with
        | none =>
            rw [value] at read
            cases read
        | some d =>
            rw [value] at read
            obtain ⟨others, more, rfl⟩ := Option.map_eq_some_iff.1 read
            have digit := decimalDigit?_eq_some_iff.1 value
            rcases ih more with run | ⟨-, ⟨rfl, rfl⟩ | ⟨rest', rfl, run⟩⟩
            · exact .inl (.next digit run)
            · exact .inl (.last digit)
            · exact .inl (.apart digit run)

theorem digitRun?_eq_some_iff : digitRun? decimalDigit? true cs = some digits ↔ IsRun cs digits := by
  constructor
  · intro read
    rcases isRun_of_digitRun? read with run | ⟨free, -⟩
    · exact run
    · cases free
  · intro run
    exact run.digitRun?_eq true

theorem IsRun.begins (run : IsRun cs digits) : ∃ c d rest, cs = c :: rest ∧ IsDigit c d := by
  cases run with
  | last digit => exact ⟨_, _, _, rfl, digit⟩
  | next digit _ => exact ⟨_, _, _, rfl, digit⟩
  | apart digit _ => exact ⟨_, _, _, rfl, digit⟩

theorem IsRun.ends (run : IsRun cs digits) : ∃ front c d, cs = front ++ [c] ∧ IsDigit c d := by
  induction run with
  | last digit => exact ⟨[], _, _, rfl, digit⟩
  | next _ _ ih =>
      obtain ⟨front, c, d, rfl, digit⟩ := ih
      exact ⟨_ :: front, c, d, rfl, digit⟩
  | apart _ _ ih =>
      obtain ⟨front, c, d, rfl, digit⟩ := ih
      exact ⟨_ :: '_' :: front, c, d, rfl, digit⟩

/-- Each value is that of a digit in the run. -/
theorem IsRun.length_le (run : IsRun cs digits) :
    digits.length ≤ cs.countP fun c => (decimalDigit? c).isSome := by
  induction run with
  | last digit => simp [decimalDigit?_eq_some_iff.2 digit]
  | next digit _ ih => simpa [decimalDigit?_eq_some_iff.2 digit] using ih
  | apart digit _ ih =>
      have underscore : decimalDigit? '_' = none := by decide
      simpa [decimalDigit?_eq_some_iff.2 digit, underscore] using ih

end Runs

/-! ## Signs -/

/-- A sign, which need not be there, and the number that it multiplies by. -/
inductive IsSign : List Char → Int → Prop where
  | absent : IsSign [] 1
  | plus : IsSign ['+'] 1
  | minus : IsSign ['-'] (-1)

theorem isSign_splitSign (cs : List Char) :
    ∃ sign unit, IsSign sign unit ∧ cs = sign ++ (splitSign cs).2 ∧
      ∀ n : Nat, signed (splitSign cs).1 n = unit * n := by
  unfold splitSign
  split
  · exact ⟨_, _, .minus, rfl, fun n => by simp [signed]⟩
  · exact ⟨_, _, .plus, rfl, fun n => by simp [signed]⟩
  · exact ⟨_, _, .absent, rfl, fun n => by simp [signed]⟩

/-- A sign is split off a run of digits. -/
theorem IsSign.splitSign_eq {sign run : List Char} {unit : Int} {digits : List Nat}
    (isSign : IsSign sign unit) (isRun : IsRun run digits) :
    ∃ negative, splitSign (sign ++ run) = (negative, run) ∧
      ∀ n : Nat, signed negative n = unit * n := by
  cases isSign with
  | plus => exact ⟨false, rfl, fun n => by simp [signed]⟩
  | minus => exact ⟨true, rfl, fun n => by simp [signed]⟩
  | absent =>
      obtain ⟨c, d, rest, rfl, digit⟩ := isRun.begins
      have noMinus : c ≠ '-' := digit.ne (by decide)
      have noPlus : c ≠ '+' := digit.ne (by decide)
      refine ⟨false, ?_, fun n => by simp [signed]⟩
      rw [List.nil_append, splitSign.eq_3]
      · rintro rest' ⟨rfl, -⟩
        exact noMinus rfl
      · rintro rest' ⟨rfl, -⟩
        exact noPlus rfl

/-! ## Literals -/

/-- A text is an integer literal with these digits, and stands for `n`. -/
inductive IsLiteral (cs : List Char) (digits : List Nat) (n : Int) : Prop where
  | intro {lead sign run trail : List Char} {unit : Int}
      (whole : cs = lead ++ (sign ++ run) ++ trail)
      (before : ∀ c ∈ lead, isWhiteSpace c = true) (after : ∀ c ∈ trail, isWhiteSpace c = true)
      (isSign : IsSign sign unit) (isRun : IsRun run digits)
      (stands : n = unit * (Nat.ofDigits 10 digits.reverse : Nat))

theorem ofDigits_eq (digits : List Nat) : ofDigits digits = Nat.ofDigits 10 digits.reverse := by
  rw [Nat.ofDigits_eq_foldr, List.foldr_reverse, ofDigits]
  congr 1
  funext n d
  exact Nat.add_comm _ _

section Literals

variable {cs : List Char} {digits : List Nat} {n : Int}

/-- A sign with digits behind it neither begins nor ends with white space. -/
theorem IsSign.framed {lead sign run trail : List Char} {unit : Int} (isSign : IsSign sign unit)
    (isRun : IsRun run digits) (before : ∀ c ∈ lead, isWhiteSpace c = true)
    (after : ∀ c ∈ trail, isWhiteSpace c = true) :
    Framed isWhiteSpace (lead ++ (sign ++ run) ++ trail) lead (sign ++ run) trail := by
  refine ⟨rfl, before, after, ?_, ?_⟩
  · cases isSign with
    | plus => exact stops_cons.2 (by decide)
    | minus => exact stops_cons.2 (by decide)
    | absent =>
        obtain ⟨c, d, rest, rfl, digit⟩ := isRun.begins
        exact stops_cons.2 digit.isWhiteSpace_eq
  · obtain ⟨front, c, d, rfl, digit⟩ := isRun.ends
    rw [List.reverse_append, List.reverse_append]
    exact stops_cons.2 digit.isWhiteSpace_eq

/-- **A literal is read as what it stands for**, unless it has too many digits. -/
theorem IsLiteral.readInteger_eq (literal : IsLiteral cs digits n) :
    readInteger cs =
      if digits.length ≤ maxDigits then .ok n else .error (.tooLong digits.length) := by
  obtain ⟨rfl, before, after, isSign, isRun, rfl⟩ := literal
  obtain ⟨negative, split, value⟩ := isSign.splitSign_eq isRun
  rw [readInteger, (isSign.framed isRun before after).trimBy_eq, split]
  simp only [digitRun?_eq_some_iff.2 isRun, value, ofDigits_eq]

/-- A literal has no more digits than its text. -/
theorem IsLiteral.length_le (literal : IsLiteral cs digits n) :
    digits.length ≤ cs.countP fun c => (decimalDigit? c).isSome := by
  obtain ⟨rfl, -, -, -, isRun, -⟩ := literal
  refine Nat.le_trans isRun.length_le ?_
  simp only [List.countP_append]
  omega

/-- A text that is not malformed is a literal. -/
theorem exists_literal (read : readInteger cs ≠ .error .malformed) :
    ∃ digits n, IsLiteral cs digits n := by
  obtain ⟨lead, trail, framed⟩ := exists_framed isWhiteSpace cs
  obtain ⟨sign, unit, isSign, core, -⟩ := isSign_splitSign (trimBy isWhiteSpace cs)
  cases taken : digitRun? decimalDigit? true (splitSign (trimBy isWhiteSpace cs)).2 with
  | none =>
      refine absurd ?_ read
      simp only [readInteger, taken]
  | some digits =>
      have whole := framed.whole
      rw [core] at whole
      exact ⟨digits, _, .intro whole framed.before framed.after isSign
        (digitRun?_eq_some_iff.1 taken) rfl⟩

/-- **A text is malformed just when it is no literal.** -/
theorem readInteger_eq_malformed_iff :
    readInteger cs = .error .malformed ↔ ¬ ∃ digits n, IsLiteral cs digits n := by
  constructor
  · rintro malformed ⟨digits, n, literal⟩
    rw [literal.readInteger_eq] at malformed
    split at malformed
    · cases malformed
    · cases malformed
  · intro none_
    by_contra read
    exact none_ (exists_literal read)

end Literals

end GeoRegistry.Text
