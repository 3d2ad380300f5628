/-
# Proofs.Text.Blank -- what stands between the blanks at the ends of a text

A text is taken apart into characters of a class at either end and what stands between them,
which neither begins nor ends with one (`Framed`).  Every text can be, and what stands between
is what trimming leaves, however the text is taken apart (`Framed.trimBy_eq`).  So more of the
class at the ends changes nothing (`trimBy_padded`), and whatever lies between two characters
of other kinds is kept (`trimBy_joined`).

What stands after the last occurrence of a character is the one end of the text in which it
does not occur and before which it does, if it does at all (`afterLast_eq_iff`).
-/
import GeoRegistry.Text.Blank
import GeoRegistry.Proofs.Text.Split
import Mathlib.Data.List.TakeWhile

namespace GeoRegistry.Text

set_option autoImplicit false

/-- The blank code points are these, and no others. -/
theorem isBlank_iff (c : Char) :
    isBlank c = true ↔
      (0x09 ≤ c.toNat ∧ c.toNat ≤ 0x0D) ∨ (0x1C ≤ c.toNat ∧ c.toNat ≤ 0x20) ∨ c.toNat = 0x85 ∨
        c.toNat = 0xA0 ∨ c.toNat = 0x1680 ∨ (0x2000 ≤ c.toNat ∧ c.toNat ≤ 0x200A) ∨
        c.toNat = 0x2028 ∨ c.toNat = 0x2029 ∨ c.toNat = 0x202F ∨ c.toNat = 0x205F ∨
        c.toNat = 0x3000 := by
  simp only [isBlank, isWhiteSpace, inRanges, whiteSpaceRanges, List.any_cons, List.any_nil,
    Bool.or_eq_true, Bool.and_eq_true, decide_eq_true_eq, Bool.or_false]
  omega

section Runs

variable {α : Type} {p : α → Bool} {cs rest : List α}

theorem stops_dropWhile (p : α → Bool) (cs : List α) : Stops p (cs.dropWhile p) := by
  intro c first
  have stopped := List.head?_dropWhile_not p cs
  rw [first] at stopped
  simpa using stopped

theorem Stops.of_append (stops : Stops p (cs ++ rest)) : Stops p cs := by
  cases cs with
  | nil => exact stops_nil
  | cons c cs => exact stops_cons.2 (stops_cons.1 stops)

theorem Stops.append (stops : Stops p cs) (some_ : cs ≠ []) : Stops p (cs ++ rest) := by
  cases cs with
  | nil => exact absurd rfl some_
  | cons c cs => exact stops_cons.2 (stops_cons.1 stops)

end Runs

/-- A text is `core` between characters of a class, with which the core neither begins nor
ends. -/
structure Framed (drop : Char → Bool) (cs lead core trail : List Char) : Prop where
  whole : cs = lead ++ core ++ trail
  before : ∀ c ∈ lead, drop c = true
  after : ∀ c ∈ trail, drop c = true
  begins : Stops drop core
  ends : Stops drop core.reverse

variable {drop : Char → Bool} {cs lead core trail : List Char}

namespace Framed

/-- **Trimming leaves the core.** -/
theorem trimBy_eq (framed : Framed drop cs lead core trail) : trimBy drop cs = core := by
  obtain ⟨rfl, before, after, begins, ends⟩ := framed
  rw [trimBy, List.append_assoc, List.dropWhile_append_of_pos before]
  cases core with
  | nil =>
      rw [List.nil_append, List.dropWhile_eq_nil_iff.2 after]
      rfl
  | cons c core =>
      have front : Stops drop (c :: core ++ trail) := begins.append (by simp)
      have back : ∀ c ∈ trail.reverse, drop c = true := by simpa using after
      rw [front.dropWhile_eq, List.reverse_append, dropWhile_run back ends, List.reverse_reverse]

theorem reversed (framed : Framed drop cs lead core trail) :
    Framed drop cs.reverse trail.reverse core.reverse lead.reverse := by
  obtain ⟨rfl, before, after, begins, ends⟩ := framed
  exact ⟨by simp, by simpa using after, by simpa using before, ends, by simpa using begins⟩

theorem padded (framed : Framed drop cs lead core trail) {left right : List Char}
    (before : ∀ c ∈ left, drop c = true) (after : ∀ c ∈ right, drop c = true) :
    Framed drop (left ++ cs ++ right) (left ++ lead) core (trail ++ right) where
  whole := by simp [framed.whole]
  before := List.forall_mem_append.2 ⟨before, framed.before⟩
  after := List.forall_mem_append.2 ⟨framed.after, after⟩
  begins := framed.begins
  ends := framed.ends

/-- Behind a text that ends with another character there is nothing to drop. -/
theorem of_solid_end {a : Char} (framed : Framed drop (cs ++ [a]) lead core trail)
    (solid : drop a = false) : trail = [] ∧ core ≠ [] := by
  obtain ⟨whole, before, after, -, -⟩ := framed
  have notDropped {run : List Char} (all : ∀ c ∈ run, drop c = true) : a ∉ run := by
    intro member
    rw [all a member] at solid
    cases solid
  have last : (lead ++ core ++ trail).getLast? = some a := by rw [← whole]; simp
  cases nothing : trail.getLast? with
  | some c =>
      rw [List.getLast?_append, nothing, Option.some_or] at last
      exact absurd (List.mem_of_getLast? (nothing.trans last)) (notDropped after)
  | none =>
      obtain rfl := List.getLast?_eq_none_iff.1 nothing
      refine ⟨rfl, ?_⟩
      rintro rfl
      exact notDropped before (List.mem_of_getLast? (by simpa using last))

end Framed

/-- Every text is framed by what trimming drops. -/
theorem exists_framed (drop : Char → Bool) (cs : List Char) :
    ∃ lead trail, Framed drop cs lead (trimBy drop cs) trail := by
  have all (cs : List Char) : ∀ c ∈ cs.takeWhile drop, drop c = true :=
    fun c member => List.mem_takeWhile_imp member
  have kept : cs.dropWhile drop =
      trimBy drop cs ++ ((cs.dropWhile drop).reverse.takeWhile drop).reverse := by
    rw [trimBy, ← List.reverse_append, List.takeWhile_append_dropWhile, List.reverse_reverse]
  refine ⟨cs.takeWhile drop, ((cs.dropWhile drop).reverse.takeWhile drop).reverse, ?_, all cs,
    ?_, ?_, ?_⟩
  · rw [List.append_assoc, ← kept, List.takeWhile_append_dropWhile]
  · intro c member
    exact all _ c (List.mem_reverse.1 member)
  · have front := stops_dropWhile drop cs
    rw [kept] at front
    exact front.of_append
  · rw [trimBy, List.reverse_reverse]
    exact stops_dropWhile drop _

/-- More of the class at the ends is dropped with the rest of it. -/
theorem trimBy_padded {left right : List Char} (before : ∀ c ∈ left, drop c = true)
    (after : ∀ c ∈ right, drop c = true) :
    trimBy drop (left ++ cs ++ right) = trimBy drop cs := by
  obtain ⟨lead, trail, framed⟩ := exists_framed drop cs
  exact (framed.padded before after).trimBy_eq

/-- **What lies between two characters of other kinds is kept**, of whatever kind it is. -/
theorem trimBy_joined {left inner right : List Char} {a b : Char} (solid : drop a = false)
    (solid' : drop b = false) :
    trimBy drop (left ++ [a] ++ inner ++ b :: right) =
      trimBy drop (left ++ [a]) ++ inner ++ trimBy drop (b :: right) := by
  obtain ⟨lead, trail, first⟩ := exists_framed drop (left ++ [a])
  obtain ⟨lead', trail', second⟩ := exists_framed drop (b :: right)
  obtain ⟨rfl, some_⟩ := first.of_solid_end solid
  have mirrored := second.reversed
  rw [List.reverse_cons] at mirrored
  obtain ⟨none_, some'⟩ := mirrored.of_solid_end solid'
  obtain rfl : lead' = [] := by simpa using none_
  have framed : Framed drop (left ++ [a] ++ inner ++ b :: right) lead
      (trimBy drop (left ++ [a]) ++ inner ++ trimBy drop (b :: right)) trail' := by
    refine ⟨?_, first.before, second.after, ?_, ?_⟩
    · calc left ++ [a] ++ inner ++ b :: right
          = (lead ++ trimBy drop (left ++ [a]) ++ []) ++ inner ++
              ([] ++ trimBy drop (b :: right) ++ trail') := by
            rw [← first.whole, ← second.whole]
        _ = lead ++ (trimBy drop (left ++ [a]) ++ inner ++ trimBy drop (b :: right)) ++
              trail' := by simp
    · rw [List.append_assoc]
      exact first.begins.append some_
    · rw [List.reverse_append]
      exact second.ends.append some'
  exact framed.trimBy_eq

/-! ## The end of a text -/

/-- `word` stands after the last occurrence of a character; it is all of a text in which the
character does not occur. -/
def IsLast (sep : Char) (cs word : List Char) : Prop :=
  sep ∉ word ∧ (cs = word ∨ ∃ before, cs = before ++ sep :: word)

theorem afterLast_eq_iff {sep : Char} {word : List Char} :
    afterLast sep cs = word ↔ IsLast sep cs word := by
  constructor
  · rintro rfl
    refine ⟨?_, ?_⟩
    · intro member
      have other := List.mem_takeWhile_imp (List.mem_reverse.1 member)
      simp at other
    · have whole : cs = (cs.reverse.dropWhile (· != sep)).reverse ++ afterLast sep cs := by
        rw [afterLast, ← List.reverse_append, List.takeWhile_append_dropWhile, List.reverse_reverse]
      cases rest : cs.reverse.dropWhile (· != sep) with
      | nil => exact .inl (by simpa [rest] using whole)
      | cons c front =>
          have stops := stops_dropWhile (· != sep) cs.reverse
          rw [rest] at stops
          obtain rfl : c = sep := by simpa using stops_cons.1 stops
          exact .inr ⟨front.reverse, by simpa [rest] using whole⟩
  · rintro ⟨free, whole⟩
    have all : ∀ c ∈ word.reverse, (c != sep) = true := by
      intro c member
      refine bne_iff_ne.2 ?_
      rintro rfl
      exact free (List.mem_reverse.1 member)
    rcases whole with rfl | ⟨before, rfl⟩
    · have run := takeWhile_run all stops_nil
      rw [List.append_nil] at run
      rw [afterLast, run, List.reverse_reverse]
    · have stops : Stops (· != sep) (sep :: before.reverse) := stops_cons.2 (by simp)
      rw [afterLast, List.reverse_append, List.reverse_cons, List.append_assoc,
        List.singleton_append, takeWhile_run all stops, List.reverse_reverse]

end GeoRegistry.Text
