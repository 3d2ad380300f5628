/-
# Proofs.Token.Segments -- tokens taken apart at their dots

A token is taken apart as octets.  A dot is an octet of its own and no part of another
character, so what is found among the octets is there in the text (`encode_eq_dotted`).
-/
import GeoRegistry.Token.Signed
import GeoRegistry.Proofs.Text.Split
import GeoRegistry.Proofs.Text.Utf8
import Mathlib.Data.List.TakeDrop

namespace GeoRegistry.Token

set_option autoImplicit false

open Text

/-! ## Octets -/

/-- **The first dot** has no dot before it. -/
theorem atFirstDot?_eq_some_iff {octets before after : List UInt8} :
    atFirstDot? octets = some (before, after) ↔
      octets = before ++ dot :: after ∧ dot ∉ before := by
  rw [atFirstDot?, List.span_eq_takeWhile_dropWhile]
  constructor
  · intro found
    have whole := List.takeWhile_append_dropWhile (p := (· != dot)) (l := octets)
    have clear : dot ∉ octets.takeWhile (· != dot) := fun member => by
      simpa using List.all_eq_true.1 List.all_takeWhile _ member
    have first := List.head?_dropWhile_not (· != dot) octets
    cases rest : octets.dropWhile (· != dot) with
    | nil =>
        rw [rest] at found
        cases found
    | cons c cs =>
        simp only [rest, Option.some.injEq, Prod.mk.injEq] at found whole
        simp only [rest, List.head?_cons, bne_eq_false_iff_eq] at first
        obtain ⟨rfl, rfl⟩ := found
        subst first
        exact ⟨whole.symm, clear⟩
  · rintro ⟨rfl, free⟩
    have run : ∀ b ∈ before, (b != dot) = true := fun b member => by
      simpa using fun same : b = dot => free (same ▸ member)
    have stops : Stops (· != dot) (dot :: after) := by simp
    rw [takeWhile_run run stops, dropWhile_run run stops]

/-- **The last dot** has no dot behind it. -/
theorem atLastDot?_eq_some_iff {octets before after : List UInt8} :
    atLastDot? octets = some (before, after) ↔
      octets = before ++ dot :: after ∧ dot ∉ after := by
  have backwards : octets.reverse = after.reverse ++ dot :: before.reverse ↔
      octets = before ++ dot :: after := by
    rw [List.reverse_eq_iff]
    simp
  rw [atLastDot?, Option.map_eq_some_iff]
  constructor
  · rintro ⟨⟨b, a⟩, found, same⟩
    simp only [Prod.mk.injEq] at same
    obtain ⟨rfl, rfl⟩ := same
    obtain ⟨whole, free⟩ := atFirstDot?_eq_some_iff.1 found
    exact ⟨by simpa using congrArg List.reverse whole, by simpa using free⟩
  · rintro ⟨whole, free⟩
    exact ⟨(after.reverse, before.reverse),
      atFirstDot?_eq_some_iff.2 ⟨backwards.2 whole, by simpa using free⟩, by simp⟩

/-! ## Texts -/

theorem dot_mem_encode_iff {s : String} : dot ∈ Utf8.encode s ↔ '.' ∈ s.toList :=
  Utf8.mem_encode_iff (by decide)

theorem encode_dotted (before after : String) :
    Utf8.encode (before ++ "." ++ after) =
      Utf8.encode before ++ dot :: Utf8.encode after := by
  have point : Utf8.encode "." = [dot] := by decide
  simp [point]

/-- A text with a dot has a first one. -/
theorem exists_firstDot {s : String} (member : '.' ∈ s.toList) :
    ∃ before after, s = before ++ "." ++ after ∧ '.' ∉ before.toList := by
  obtain ⟨before, after, whole, free⟩ := List.eq_append_cons_of_mem member
  refine ⟨.ofList before, .ofList after, ?_, by simpa using free⟩
  rw [← String.toList_inj]
  simpa using whole

/-- A text with a dot has a last one. -/
theorem exists_lastDot {s : String} (member : '.' ∈ s.toList) :
    ∃ before after, s = before ++ "." ++ after ∧ '.' ∉ after.toList := by
  obtain ⟨after, before, whole, free⟩ :=
    List.eq_append_cons_of_mem (List.mem_reverse.2 member)
  have forwards := congrArg List.reverse whole
  refine ⟨.ofList before.reverse, .ofList after.reverse, ?_, by simpa using free⟩
  rw [← String.toList_inj]
  simpa using forwards

/-- **What stands before and behind the first dot among the octets of a text** are the
octets of what stands before and behind its first dot. -/
theorem atFirstDot?_encode {s : String} {b a : List UInt8}
    (found : atFirstDot? (Utf8.encode s) = some (b, a)) :
    ∃ before after, s = before ++ "." ++ after ∧ '.' ∉ before.toList ∧
      Utf8.encode before = b ∧ Utf8.encode after = a := by
  have member : '.' ∈ s.toList := by
    rw [← dot_mem_encode_iff, (atFirstDot?_eq_some_iff.1 found).1]
    simp
  obtain ⟨before, after, whole, free⟩ := exists_firstDot member
  have same := atFirstDot?_eq_some_iff.2
    ⟨encode_dotted before after, fun dotted => free (dot_mem_encode_iff.1 dotted)⟩
  rw [← whole, found] at same
  simp only [Option.some.injEq, Prod.mk.injEq] at same
  exact ⟨before, after, whole, free, same.1.symm, same.2.symm⟩

theorem atLastDot?_encode {s : String} {b a : List UInt8}
    (found : atLastDot? (Utf8.encode s) = some (b, a)) :
    ∃ before after, s = before ++ "." ++ after ∧ '.' ∉ after.toList ∧
      Utf8.encode before = b ∧ Utf8.encode after = a := by
  have member : '.' ∈ s.toList := by
    rw [← dot_mem_encode_iff, (atLastDot?_eq_some_iff.1 found).1]
    simp
  obtain ⟨before, after, whole, free⟩ := exists_lastDot member
  have same := atLastDot?_eq_some_iff.2
    ⟨encode_dotted before after, fun dotted => free (dot_mem_encode_iff.1 dotted)⟩
  rw [← whole, found] at same
  simp only [Option.some.injEq, Prod.mk.injEq] at same
  exact ⟨before, after, whole, free, same.1.symm, same.2.symm⟩

end GeoRegistry.Token
