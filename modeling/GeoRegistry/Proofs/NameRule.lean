/-
# Proofs.NameRule -- which names pass, and what is said of the others

A name is as long as what stands between the blanks at its ends (`measure_of_framed`), so blanks
at the ends do not count (`measure_padded`) and blanks within do (`measure_joined`).  Its length
alone decides what becomes of it (`accept_eq_error_iff`, `accept_eq_ok_iff`): it is blank, or
too short, or kept as it was given.
-/
import GeoRegistry.NameRule
import GeoRegistry.Proofs.Text.Blank

namespace GeoRegistry.NameRule

set_option autoImplicit false

open Text

/-- All of a text is blank. -/
def AllBlank (s : String) : Prop :=
  ∀ c ∈ s.toList, isBlank c = true

-- goes through the characters of the text: there is also an instance that tries all characters
instance (s : String) : Decidable (AllBlank s) :=
  List.decidableBAll (isBlank · = true) s.toList

/-! ## How long a name is -/

theorem measure_of_framed {name : String} {lead core trail : List Char}
    (framed : Framed isBlank name.toList lead core trail) : measure name = core.length := by
  rw [measure, framed.trimBy_eq]

/-- Blanks at the ends of a name do not count. -/
theorem measure_padded {before after : String} (name : String) (blankBefore : AllBlank before)
    (blankAfter : AllBlank after) : measure (before ++ name ++ after) = measure name := by
  rw [measure, String.toList_append, String.toList_append, trimBy_padded blankBefore blankAfter]
  rfl

/-- All that stands between two characters that are not blank counts. -/
theorem measure_joined {left inner right : List Char} {a b : Char} (solid : isBlank a = false)
    (solid' : isBlank b = false) :
    measure (.ofList (left ++ [a] ++ inner ++ b :: right)) =
      measure (.ofList (left ++ [a])) + inner.length + measure (.ofList (b :: right)) := by
  simp only [measure, String.toList_ofList, trimBy_joined solid solid', List.length_append]

/-! ## What becomes of it -/

section Verdict

variable {field : String} {least : Int} {name : Option String}

theorem accept_eq_error_iff {r : Refusal} :
    accept field least name = .error r ↔
      (measure (name.getD "") = 0 ∧ r = .fieldEmpty field) ∨
        (0 < measure (name.getD "") ∧ (measure (name.getD "") : Int) < least ∧
          r = .fieldTooShort field least (measure (name.getD ""))) := by
  simp only [accept, check]
  generalize measure (name.getD "") = found
  by_cases blank : found = 0
  · simp [blank, Except.map, eq_comm]
  · by_cases short : (found : Int) < least
    · simp [blank, short, Except.map, Nat.pos_of_ne_zero blank, eq_comm]
    · simp [blank, short, Except.map]

/-- A name that passes is kept as it was given. -/
theorem accept_eq_ok_iff {kept : String} :
    accept field least name = .ok kept ↔
      0 < measure (name.getD "") ∧ least ≤ measure (name.getD "") ∧ name = some kept := by
  have nameless : measure "" = 0 := rfl
  simp only [accept, check]
  cases name with
  | none => simp [nameless, Except.map]
  | some given =>
      rw [Option.getD_some]
      generalize measure given = found
      by_cases blank : found = 0
      · simp [blank, Except.map]
      · by_cases short : (found : Int) < least
        · simp [blank, short, Except.map, Int.not_le.2 short]
        · simp [blank, short, Except.map, Nat.pos_of_ne_zero blank, Int.not_lt.1 short]

/-- A name that is refused is refused by any stricter rule. -/
theorem refused_of_stricter {higher : Int} {r : Refusal} (stricter : least ≤ higher)
    (refused : accept field least name = .error r) :
    ∃ r', accept field higher name = .error r' := by
  cases judged : accept field higher name with
  | error r' => exact ⟨r', rfl⟩
  | ok kept =>
      obtain ⟨some_, long, given⟩ := accept_eq_ok_iff.1 judged
      rw [accept_eq_ok_iff.2 ⟨some_, Int.le_trans stricter long, given⟩] at refused
      cases refused

end Verdict

/-- **Names are measured between the blanks at their ends.**  The blanks are the white space of
Unicode and the four information separators.  A name of nothing else is blank; one that is
shorter than the rule has it is too short, and is told the rule and its own length; any other is
kept as it was given.  So blanks at the ends of a name make no difference, blanks within it
count like anything else, and a stricter rule lets no more names through. -/
theorem names_are_measured_between_blanks (field : String) (least : Int) (name : Option String) :
    (∀ c, isBlank c = true ↔
      (0x09 ≤ c.toNat ∧ c.toNat ≤ 0x0D) ∨ (0x1C ≤ c.toNat ∧ c.toNat ≤ 0x20) ∨ c.toNat = 0x85 ∨
        c.toNat = 0xA0 ∨ c.toNat = 0x1680 ∨ (0x2000 ≤ c.toNat ∧ c.toNat ≤ 0x200A) ∨
        c.toNat = 0x2028 ∨ c.toNat = 0x2029 ∨ c.toNat = 0x202F ∨ c.toNat = 0x205F ∨
        c.toNat = 0x3000) ∧
    ∃ n, (∃ lead core trail, Framed isBlank (name.getD "").toList lead core trail) ∧
      (∀ lead core trail, Framed isBlank (name.getD "").toList lead core trail →
        core.length = n) ∧
      (∀ r, accept field least name = .error r ↔
        (n = 0 ∧ r = .fieldEmpty field) ∨
          (0 < n ∧ (n : Int) < least ∧ r = .fieldTooShort field least n)) ∧
      (∀ kept, accept field least name = .ok kept ↔ 0 < n ∧ least ≤ n ∧ name = some kept) ∧
      (∀ before after, AllBlank before → AllBlank after →
        (accept field least (some (before ++ name.getD "" ++ after))).map (fun _ => ()) =
          (accept field least name).map fun _ => ()) ∧
      (∀ left inner right a b, (name.getD "").toList = left ++ [a] ++ inner ++ b :: right →
        isBlank a = false → isBlank b = false →
        n = measure (.ofList (left ++ [a])) + inner.length + measure (.ofList (b :: right))) ∧
      ∀ higher r, least ≤ higher → accept field least name = .error r →
        ∃ r', accept field higher name = .error r' := by
  refine ⟨isBlank_iff, measure (name.getD ""), ?_, fun lead core trail framed => ?_,
    fun r => accept_eq_error_iff, fun kept => accept_eq_ok_iff, fun before after left right => ?_,
    fun left inner right a b whole solid solid' => ?_,
    fun higher r stricter refused => refused_of_stricter stricter refused⟩
  · obtain ⟨lead, trail, framed⟩ := exists_framed isBlank (name.getD "").toList
    exact ⟨lead, _, trail, framed⟩
  · exact (measure_of_framed framed).symm
  · simp only [accept, check, Option.getD_some, measure_padded _ left right]
    split
    · rfl
    · split <;> rfl
  · rw [← measure_joined solid solid', ← whole, String.ofList_toList]

/-- A name with blanks of three kinds, two of them at its ends. -/
def tower : String := " Tour\u2003Bel-Air\u001f"

/-- What stands between the blanks at its ends. -/
def towerCore : List Char :=
  ['T', 'o', 'u', 'r', '\u2003', 'B', 'e', 'l', '-', 'A', 'i', 'r']

/-- It has twelve characters: a rule that asks for twelve keeps all of it, and one that asks for
more does not, whatever blanks are put around it. -/
theorem tower_is_measured :
    Framed isBlank tower.toList [' '] towerCore ['\u001f'] ∧
      accept "name" 12 (some tower) = .ok tower ∧
      accept "name" 13 (some tower) = .error (.fieldTooShort "name" 13 12) ∧
      (accept "name" 13 (some ("\t" ++ tower ++ "\u3000"))).map (fun _ => ()) =
        (accept "name" 13 (some tower)).map (fun _ => ()) ∧
      12 = measure " Tour" + 1 + measure "Bel-Air\u001f" ∧
      ∃ r, accept "name" 40 (some tower) = .error r := by
  have framed : Framed isBlank tower.toList [' '] towerCore ['\u001f'] :=
    ⟨rfl, List.forall_mem_singleton.2 (by decide), List.forall_mem_singleton.2 (by decide),
      stops_cons.2 (by decide), stops_cons.2 (by decide)⟩
  obtain ⟨-, n, -, measured, -, keeps, -⟩ :=
    names_are_measured_between_blanks "name" 12 (some tower)
  obtain rfl : 12 = n := measured _ _ _ framed
  obtain ⟨-, n, -, measured, refuses, -, padded, joined, stricter⟩ :=
    names_are_measured_between_blanks "name" 13 (some tower)
  obtain rfl : 12 = n := measured _ _ _ framed
  have refused : accept "name" 13 (some tower) = .error (.fieldTooShort "name" 13 12) :=
    (refuses _).2 (.inr ⟨by decide, by decide, rfl⟩)
  exact ⟨framed, (keeps _).2 ⟨by decide, by decide, rfl⟩, refused,
    padded "\t" "\u3000" (by decide) (by decide),
    joined [' ', 'T', 'o', 'u'] ['\u2003'] ['e', 'l', '-', 'A', 'i', 'r', '\u001f'] 'r' 'B' rfl
      (by decide) (by decide),
    stricter 40 _ (by decide) refused⟩

end GeoRegistry.NameRule
