/-
# Proofs.Json.Number -- numbers within a text

A number goes on as long as its characters do (`isNumeral`), so one that fills a text is
read alike where something else follows (`atom_append`).  What is written for an integer is
read as the integer, unless it is too long; what is written for a floating-point number is
taken to read back (`ReadsBack`), and is looked at character by character only
(`Binary64.text_all`).
-/
import GeoRegistry.Json.Parser
import GeoRegistry.Json.Printer
import GeoRegistry.Proofs.Outcome
import GeoRegistry.Proofs.Text.Numeral

namespace GeoRegistry

set_option autoImplicit false

open Text

/-! ## The characters of floating-point numbers -/

namespace Binary64

/-- What the digits, the signs and the marks of a number have in common. -/
structure OfNumbers (P : Char → Prop) : Prop where
  digit : ∀ c : Char, c.isDigit = true → P c
  point : P '.'
  mark : P 'e'
  plus : P '+'
  minus : P '-'

section Characters

variable {P : Char → Prop} (numeral : OfNumbers P)

include numeral

theorem OfNumbers.toDigits (n : Nat) : ∀ c ∈ Nat.toDigits 10 n, P c :=
  fun c member => numeral.digit c (isDigit_of_written member)

theorem OfNumbers.zeros (n : Nat) : ∀ c ∈ List.replicate n '0', P c := by
  intro c member
  obtain ⟨-, rfl⟩ := List.mem_replicate.1 member
  exact numeral.digit '0' (by decide)

theorem OfNumbers.significant (digits : Nat) (scale : Int) :
    ∀ c ∈ (significant digits scale).1, P c := by
  intro c member
  have kept := List.dropWhile_subset _ (List.mem_reverse.1 member)
  exact numeral.toDigits digits c (List.mem_reverse.1 kept)

theorem OfNumbers.layout {digits : List Char} (all : ∀ c ∈ digits, P c) (point : Int) :
    ∀ c ∈ layout digits point, P c := by
  have before (n : Nat) : ∀ c ∈ digits.take n, P c := fun c member => all c (List.mem_of_mem_take member)
  have behind (n : Nat) : ∀ c ∈ digits.drop n, P c := fun c member => all c (List.mem_of_mem_drop member)
  have zero : P '0' := numeral.digit '0' (by decide)
  unfold Binary64.layout
  split
  · have sign (power : Int) : P (if power < 0 then '-' else '+') := by
      split
      · exact numeral.minus
      · exact numeral.plus
    have fraction : ∀ c ∈ if digits.length ≤ 1 then [] else '.' :: digits.drop 1, P c := by
      split
      · simp
      · exact List.forall_mem_cons.2 ⟨numeral.point, behind 1⟩
    simp only [List.forall_mem_append, List.forall_mem_cons]
    exact ⟨⟨⟨⟨before 1, fraction⟩, numeral.mark, sign _, by simp⟩, numeral.zeros _⟩,
      numeral.toDigits _⟩
  · split
    · simp only [List.forall_mem_append, List.forall_mem_cons]
      exact ⟨⟨zero, numeral.point, numeral.zeros _⟩, all⟩
    · split
      · simp only [List.forall_mem_append, List.forall_mem_cons]
        exact ⟨⟨all, numeral.zeros _⟩, numeral.point, zero, by simp⟩
      · simp only [List.forall_mem_append, List.forall_mem_cons]
        exact ⟨before _, numeral.point, behind _⟩

/-- **What all that numbers are written with has in common, the text of a number has**, and so
has that of one without digits if the words for those have it. -/
theorem text_all {special : Special} (nan : ∀ c ∈ special.nan.toList, P c)
    (infinity : ∀ c ∈ special.infinity.toList, P c) (x : Binary64) :
    ∀ c ∈ (x.text special).toList, P c := by
  have zero : P '0' := numeral.digit '0' (by decide)
  cases x with
  | nan => exact nan
  | infinite negative =>
      cases negative
      · simpa [text] using infinity
      · simpa [text, numeral.minus] using infinity
  | finite negative m e =>
      have magnitude : ∀ c ∈ (if m = 0 then ['0', '.', '0'] else
          Binary64.layout (Binary64.significant (shortest m e).1 (shortest m e).2).1
            (Binary64.significant (shortest m e).1 (shortest m e).2).2), P c := by
        split
        · simp [zero, numeral.point]
        · exact numeral.layout (numeral.significant _ _) _
      cases negative
      · simpa [text] using magnitude
      · simpa [text, numeral.minus] using magnitude

end Characters

end Binary64

namespace Json

/-! ## Numbers -/

/-- A character that a number goes on with. -/
def isNumeral (c : Char) : Bool :=
  c.isDigit || c = '.' || c = 'e' || c = 'E'

/-- What a number does not go on with is no digit. -/
theorem digit_stops {rest : List Char} (stops : Stops isNumeral rest) :
    Stops Char.isDigit rest := by
  intro c first
  have none_ := stops c first
  simp only [isNumeral, Bool.or_eq_false_iff] at none_
  exact none_.1.1.1

theorem integerPart?_toDigits (n : Nat) {rest : List Char} (stops : Stops isNumeral rest) :
    integerPart? (Nat.toDigits 10 n ++ rest) = some (Nat.toDigits 10 n, rest) := by
  have digit := digit_stops stops
  rcases toDigits_head n with zero | other
  · rw [zero]
    rfl
  · obtain ⟨c, cs, written⟩ := List.exists_cons_of_ne_nil (Nat.toDigits_ne_nil (b := 10) (n := n))
    have run : ∀ c ∈ Nat.toDigits 10 n, c.isDigit = true := fun c => isDigit_of_written
    have taken : digits (Nat.toDigits 10 n ++ rest) = (Nat.toDigits 10 n, rest) := by
      rw [digits, takeWhile_run run digit, dropWhile_run run digit]
    have nonzero : c ≠ '0' := by simpa [written] using other
    rw [integerPart?.eq_2, taken]
    · simp [written]
    · intro rest' same
      rw [written, List.cons_append] at same
      exact nonzero (List.cons.inj same).1

/-- Nothing that ends a number is a fraction or an exponent. -/
theorem parts_of_stops {rest : List Char} (stops : Stops isNumeral rest) :
    fractionPart rest = ([], rest) ∧ exponentPart rest = (none, rest) := by
  cases rest with
  | nil => exact ⟨rfl, rfl⟩
  | cons c cs =>
      simp only [stops_cons, isNumeral, Bool.or_eq_false_iff, decide_eq_false_iff_not] at stops
      obtain ⟨⟨⟨-, point⟩, small⟩, capital⟩ := stops
      refine ⟨?_, by simp [exponentPart, small, capital]⟩
      rw [fractionPart.eq_2]
      intro rest' same
      exact point (List.cons.inj same).1

theorem number_toDigits (here : List Char) (negative : Bool) {n : Nat}
    (short : (Nat.toDigits 10 n).length ≤ maxDigits) {rest : List Char}
    (stops : Stops isNumeral rest) :
    number .values here negative (Nat.toDigits 10 n ++ rest) =
      .ok (.int (signed negative n), rest) := by
  have value : ofDigits (digitValues (Nat.toDigits 10 n)) = n := ofDigits_toDigits n
  obtain ⟨fraction, exponent⟩ := parts_of_stops stops
  simp [number, integerPart?_toDigits n stops, fraction, exponent, numberValue, short, value,
    Except.map]

/-- The first character of a written integer. -/
theorem toString_head (n : Int) :
    ∃ c cs, (toString n).toList = c :: cs ∧ (c = '-' ∨ c.isDigit = true) := by
  obtain ⟨c, cs, written⟩ :=
    List.exists_cons_of_ne_nil (Nat.toDigits_ne_nil (b := 10) (n := n.natAbs))
  rw [toList_toString]
  split
  · exact ⟨_, _, rfl, .inl rfl⟩
  · exact ⟨c, cs, written, .inr (isDigit_of_written (n := n.natAbs) (by simp [written]))⟩

/-- **An integer is read back.** -/
theorem atom_toString {n : Int} (short : (Nat.toDigits 10 n.natAbs).length ≤ maxDigits)
    {rest : List Char} (stops : Stops isNumeral rest) :
    atom .values ((toString n).toList ++ rest) = .ok (.int n, rest) := by
  obtain ⟨c, cs, written⟩ :=
    List.exists_cons_of_ne_nil (Nat.toDigits_ne_nil (b := 10) (n := n.natAbs))
  have digit : c.isDigit = true := isDigit_of_written (n := n.natAbs) (by simp [written])
  have other {d : Char} (letter : d.isDigit = false) : c ≠ d := by
    rintro rfl
    rw [digit] at letter
    cases letter
  have sign := signed_natAbs n
  rw [toList_toString]
  split
  · next negative =>
    simp only [negative, decide_true] at sign
    rw [List.cons_append, atom.eq_7, number_toDigits _ _ short stops, sign]
    intro rest' same
    rw [written, List.cons_append] at same
    exact other (by decide) (List.cons.inj same).1
  · next positive =>
    simp only [positive, decide_false] at sign
    have read := number_toDigits (Nat.toDigits 10 n.natAbs ++ rest) false short stops
    rw [sign] at read
    have apart {d : Char} (letter : d.isDigit = false) (rest' : List Char)
        (same : Nat.toDigits 10 n.natAbs ++ rest = d :: rest') : False := by
      rw [written, List.cons_append] at same
      exact other letter (List.cons.inj same).1
    rw [atom.eq_8, read]
    · exact apart (by decide)
    · exact apart (by decide)
    · exact apart (by decide)
    · exact apart (by decide)
    · exact apart (by decide)
    · exact fun _ => apart (by decide) _
    · exact apart (by decide)

/-! ## Numbers with something behind them -/

section Append

variable {rest : List Char}

theorem digits_append (cs : List Char) (stops : Stops Char.isDigit rest) :
    digits (cs ++ rest) = ((digits cs).1, (digits cs).2 ++ rest) := by
  induction cs with
  | nil => simp [digits, stops.takeWhile_eq, stops.dropWhile_eq]
  | cons c cs ih =>
      simp only [digits, Prod.mk.injEq] at ih ⊢
      cases digit : c.isDigit <;> simp [digit, ih]

theorem integerPart?_append {cs whole left : List Char}
    (read : integerPart? cs = some (whole, left)) (stops : Stops isNumeral rest) :
    integerPart? (cs ++ rest) = some (whole, left ++ rest) := by
  unfold integerPart? at read
  split at read
  · cases read
    rfl
  · next zero =>
    split at read
    · cases read
    · next some_ =>
      have taken := Option.some.inj read
      obtain ⟨c, cs, rfl⟩ : ∃ c cs', cs = c :: cs' := by
        cases cs with
        | nil => simp [digits] at some_
        | cons c cs => exact ⟨c, cs, rfl⟩
      have other : ∀ rest', c :: cs ++ rest ≠ '0' :: rest' := by
        intro rest' same
        have first := (List.cons.inj same).1
        exact zero cs (by rw [first])
      rw [integerPart?.eq_2 _ other, digits_append _ (digit_stops stops), taken]
      simpa [taken] using some_

theorem fractionPart_append (cs : List Char) (stops : Stops isNumeral rest) :
    fractionPart (cs ++ rest) = ((fractionPart cs).1, (fractionPart cs).2 ++ rest) := by
  cases cs with
  | nil => exact (parts_of_stops stops).1
  | cons c cs =>
      by_cases point : c = '.'
      · subst point
        rw [List.cons_append, fractionPart, fractionPart, digits_append _ (digit_stops stops)]
        split <;> rfl
      · have other (cs' rest' : List Char) (same : c :: cs' = '.' :: rest') : False :=
          point (List.cons.inj same).1
        rw [List.cons_append, fractionPart.eq_2 _ (other _), fractionPart.eq_2 _ (other _)]
        rfl

theorem splitSign_append {c : Char} {cs : List Char} :
    splitSign (c :: cs ++ rest) = ((splitSign (c :: cs)).1, (splitSign (c :: cs)).2 ++ rest) := by
  by_cases minus : c = '-'
  · subst minus
    rfl
  · by_cases plus : c = '+'
    · subst plus
      rfl
    · have other (d : Char) (no : c ≠ d) (cs' rest' : List Char)
          (same : c :: cs' = d :: rest') : False :=
        no (List.cons.inj same).1
      rw [List.cons_append, splitSign.eq_3 _ (other '-' minus _) (other '+' plus _),
        splitSign.eq_3 _ (other '-' minus _) (other '+' plus _)]
      rfl

/-- An exponent that goes to the end of a text, or no exponent at its end. -/
theorem exponentPart_append {cs : List Char} {exponent : Option Int}
    (read : exponentPart cs = (exponent, [])) (stops : Stops isNumeral rest) :
    exponentPart (cs ++ rest) = (exponent, rest) := by
  cases cs with
  | nil =>
      obtain rfl : none = exponent := congrArg Prod.fst read
      exact (parts_of_stops stops).2
  | cons c cs =>
      simp only [exponentPart] at read
      split at read
      · next mark =>
        split at read
        · simp at read
        · next some_ =>
          -- there are digits behind the mark, so what follows the text is not taken for a sign
          obtain ⟨d, ds, rfl⟩ : ∃ d ds, cs = d :: ds := by
            cases cs with
            | nil => simp [splitSign, digits] at some_
            | cons d ds => exact ⟨d, ds, rfl⟩
          obtain ⟨value, left⟩ := Prod.mk.inj read
          rw [List.cons_append, exponentPart]
          simp only [mark, if_true, splitSign_append, digits_append _ (digit_stops stops), some_,
            value, left, List.nil_append]
          rfl
      · simp at read

end Append

/-! ## The parts of a number -/

/-- **What a number is read of**: the digits before the point, those behind it, an exponent, and
what is left. -/
theorem number_eq_ok {here cs rest : List Char} {negative : Bool} {v : Json} :
    number .values here negative cs = .ok (v, rest) ↔
      ∃ whole left fraction behind exponent, integerPart? cs = some (whole, left) ∧
        fractionPart left = (fraction, behind) ∧ exponentPart behind = (exponent, rest) ∧
        numberValue negative whole fraction exponent = .ok v := by
  constructor
  · intro read
    unfold number at read
    split at read
    · cases read
    · next whole left taken =>
      obtain ⟨value, made, same⟩ := map_eq_ok read
      obtain ⟨rfl, empty⟩ := Prod.mk.inj same
      exact ⟨whole, left, _, _, _, taken, rfl, Prod.ext rfl empty, made⟩
  · rintro ⟨whole, left, fraction, behind, exponent, taken, point, mark, made⟩
    simp only [number, taken, point, mark, made]
    rfl

/-- A number that fills a text is read alike where something else follows. -/
theorem number_append {here here' cs rest : List Char} {negative : Bool} {v : Json}
    (read : number .values here negative cs = .ok (v, [])) (stops : Stops isNumeral rest) :
    number .values here' negative (cs ++ rest) = .ok (v, rest) := by
  obtain ⟨whole, left, fraction, behind, exponent, taken, point, mark, made⟩ :=
    number_eq_ok.1 read
  refine number_eq_ok.2 ⟨whole, left ++ rest, fraction, behind ++ rest, exponent,
    integerPart?_append taken stops, ?_, exponentPart_append mark stops, made⟩
  rw [fractionPart_append _ stops, point]

theorem splitSign_suffix (cs : List Char) : (splitSign cs).2 <:+ cs := by
  unfold splitSign
  split
  · exact List.suffix_cons _ _
  · exact List.suffix_cons _ _
  · exact List.suffix_refl _

theorem digits_suffix (cs : List Char) : (digits cs).2 <:+ cs :=
  List.dropWhile_suffix _

/-- What is left behind a number is the end of the text. -/
theorem number_suffix {here cs rest : List Char} {negative : Bool} {v : Json}
    (read : number .values here negative cs = .ok (v, rest)) : rest <:+ cs := by
  obtain ⟨whole, left, fraction, behind, exponent, taken, point, mark, -⟩ := number_eq_ok.1 read
  have first : left <:+ cs := by
    unfold integerPart? at taken
    split at taken
    · cases taken
      exact List.suffix_cons _ _
    · split at taken
      · cases taken
      · cases taken
        exact digits_suffix _
  have second : behind <:+ left := by
    unfold fractionPart at point
    split at point
    · split at point
      · cases point
        exact List.suffix_refl _
      · obtain rfl : _ = behind := congrArg Prod.snd point
        exact (digits_suffix _).trans (List.suffix_cons _ _)
    · cases point
      exact List.suffix_refl _
  have third : rest <:+ behind := by
    obtain rfl : _ = rest := congrArg Prod.snd mark
    unfold exponentPart
    split
    · split
      · dsimp only
        split
        · exact List.suffix_refl _
        · exact (digits_suffix _).trans ((splitSign_suffix _).trans (List.suffix_cons _ _))
      · exact List.suffix_refl _
    · exact List.suffix_refl _
  exact third.trans (second.trans first)

/-! ## What is neither a text nor a container -/

theorem word_append (here tail rest : List Char) (v : Json) :
    word here (tail ++ rest) tail v = .ok (v, rest) := by
  simp [word]

theorem word_eq_ok {here tail cs rest : List Char} {v w : Json}
    (read : word here cs tail v = .ok (w, rest)) : w = v ∧ cs = tail ++ rest := by
  unfold word at read
  split at read
  · next whole =>
    obtain ⟨rest', rfl⟩ := List.isPrefixOf_iff_prefix.1 whole
    cases read
    simp
  · cases read

/-- Nothing is read of an empty text. -/
theorem number_nil {here : List Char} {negative : Bool} :
    number .values here negative [] = malformed here := by
  simp [number, integerPart?, digits]

/-- **An atom that fills a text is read alike where something else follows.** -/
theorem atom_append {cs rest : List Char} {v : Json} (read : atom .values cs = .ok (v, []))
    (stops : Stops isNumeral rest) : atom .values (cs ++ rest) = .ok (v, rest) := by
  unfold atom at read
  split at read
  case h_1 | h_2 | h_3 | h_4 | h_5 =>
    obtain ⟨rfl, rfl⟩ := word_eq_ok read
    rw [List.append_nil, List.cons_append, atom, word_append]
  case h_6 =>
    obtain ⟨rfl, rfl⟩ := word_eq_ok read
    rw [List.append_nil, List.cons_append, List.cons_append, atom, word_append]
  case h_7 cs other =>
    cases cs with
    | nil =>
        rw [number_nil] at read
        cases read
    | cons c cs =>
        rw [List.cons_append, atom.eq_7]
        · exact number_append read stops
        · intro rest' same
          exact other cs (by rw [(List.cons.inj same).1])
  case h_8 null true_ false_ nan infinity negative minus =>
    cases cs with
    | nil =>
        rw [number_nil] at read
        cases read
    | cons c cs =>
        have apart {d : Char} (other : ∀ rest, c :: cs = d :: rest → False) (rest' : List Char)
            (same : c :: cs ++ rest = d :: rest') : False :=
          other cs (by rw [(List.cons.inj same).1])
        rw [atom.eq_8]
        · exact number_append read stops
        · exact apart null
        · exact apart true_
        · exact apart false_
        · exact apart nan
        · exact apart infinity
        · exact fun _ => apart minus _
        · exact apart minus

theorem word_suffix {here tail cs rest : List Char} {v w : Json}
    (read : word here cs tail v = .ok (w, rest)) : rest <:+ cs := by
  obtain ⟨-, rfl⟩ := word_eq_ok read
  exact List.suffix_append _ _

/-- What is left behind an atom is the end of the text. -/
theorem atom_suffix {cs rest : List Char} {v : Json} (read : atom .values cs = .ok (v, rest)) :
    rest <:+ cs := by
  unfold atom at read
  split at read
  case h_1 | h_2 | h_3 | h_4 | h_5 => exact (word_suffix read).trans (List.suffix_cons _ _)
  case h_6 =>
    exact (word_suffix read).trans ((List.suffix_cons _ _).trans (List.suffix_cons _ _))
  case h_7 => exact (number_suffix read).trans (List.suffix_cons _ _)
  case h_8 => exact number_suffix read

/-- What is neither a text nor a container is an atom. -/
theorem value_atom (mode : Numerals) (fuel depth : Nat) {c : Char} (rest : List Char)
    (quote : c ≠ '"') (bracket : c ≠ '[') (brace : c ≠ '\x7b') :
    value mode (fuel + 1) depth (c :: rest) = atom mode (c :: rest) := by
  have apart {d : Char} (other : c ≠ d) (rest' : List Char) (same : c :: rest = d :: rest') :
      False :=
    other (List.cons.inj same).1
  rw [value]
  · exact apart quote
  · exact fun rest' same _ => apart bracket rest' same
  · exact fun rest' _ same _ => apart bracket rest' same
  · exact fun rest' same _ => apart brace rest' same
  · exact fun rest' _ same _ => apart brace rest' same

/-! ## Floating-point numbers -/

/-- The number is read from its text. -/
def ReadsBack (x : Binary64) : Prop :=
  parse (floatText x) = .ok (.float x)

/-- A character that stands at neither end of a number. -/
def isEdge (c : Char) : Bool :=
  isSpace c || ['"', '[', ']', '\x7b', '\x7d'].contains c

theorem edges_apart : Binary64.OfNumbers fun c => isEdge c = false where
  digit c digit := by
    have none_ : ∀ c ∈ [' ', '\t', '\n', '\r', '"', '[', ']', '\x7b', '\x7d'],
        c.isDigit = false := by simp [Char.isDigit]
    refine Bool.eq_false_iff.2 fun edge => ?_
    have listed := none_ c (by simpa [isEdge, isSpace, or_assoc] using edge)
    rw [digit] at listed
    cases listed
  point := by decide
  mark := by decide
  plus := by decide
  minus := by decide

theorem floatText_edges (x : Binary64) : ∀ c ∈ (floatText x).toList, isEdge c = false :=
  Binary64.text_all edges_apart (by simp [isEdge, isSpace]) (by simp [isEdge, isSpace]) x

theorem isSpace_of_isEdge {c : Char} (inner : isEdge c = false) : isSpace c = false := by
  rw [isEdge, Bool.or_eq_false_iff] at inner
  exact inner.1

/-- What is read as a floating-point number is an atom. -/
theorem atom_of_value_float {mode : Numerals} {fuel depth : Nat} {cs rest : List Char}
    {x : Binary64} (read : value mode (fuel + 1) depth cs = .ok (.float x, rest)) :
    atom mode cs = .ok (.float x, rest) := by
  rw [value.eq_def] at read
  dsimp only at read
  split at read
  · obtain ⟨s, -, same⟩ := map_eq_ok read
    cases same
  · cases read
  · split at read
    · cases read
    · obtain ⟨items, -, same⟩ := map_eq_ok read
      cases same
  · cases read
  · split at read
    · cases read
    · obtain ⟨fields, -, same⟩ := map_eq_ok read
      cases same
  · exact read

/-- A number that is read from its text takes all of it. -/
theorem ReadsBack.fills {x : Binary64} (back : ReadsBack x) :
    atom .values (floatText x).toList = .ok (.float x, []) := by
  have inner : ∀ c ∈ (floatText x).toList, isSpace c = false :=
    fun c member => isSpace_of_isEdge (floatText_edges x c member)
  have solid : skip (floatText x).toList = (floatText x).toList :=
    (Stops.of_all inner).dropWhile_eq
  rw [ReadsBack, parse, parseChars, solid] at back
  split at back
  · cases back
  · next v rest read =>
    split at back
    · next nothing =>
      cases back
      have whole := atom_of_value_float read
      -- no blanks are left behind the number, as there are none in the text
      have left : skip rest = rest :=
        (Stops.of_all fun c member => inner c ((atom_suffix whole).subset member)).dropWhile_eq
      rwa [← left.symm.trans nothing]
    · cases back

/-- The first character of a number that is read from its text. -/
theorem ReadsBack.head {x : Binary64} (back : ReadsBack x) :
    ∃ c cs, (floatText x).toList = c :: cs ∧ isEdge c = false := by
  have fills := back.fills
  cases written : (floatText x).toList with
  | nil =>
      rw [written] at fills
      cases fills
  | cons c cs => exact ⟨c, cs, rfl, floatText_edges x c (by simp [written])⟩

/-- **A floating-point number is read back**, where it is read from its text. -/
theorem value_float {x : Binary64} (back : ReadsBack x) (fuel depth : Nat) {rest : List Char}
    (stops : Stops isNumeral rest) :
    value .values (fuel + 1) depth ((floatText x).toList ++ rest) = .ok (.float x, rest) := by
  have read := atom_append back.fills stops
  obtain ⟨c, cs, written, inner⟩ := back.head
  have other {d : Char} (edge : isEdge d = true) : c ≠ d := by
    rintro rfl
    rw [inner] at edge
    cases edge
  rw [written, List.cons_append] at read ⊢
  rw [value_atom _ _ _ _ (other (by decide)) (other (by decide)) (other (by decide)), read]

end Json

end GeoRegistry
