/-
# Proofs.Text.Split -- texts that are taken apart and put together

A run of characters of a class ends where a text goes on with something else
(`takeWhile_run`, `dropWhile_run`).  What stands before the first occurrence of a character
is one piece (`split_append`), so a text is taken apart piece by piece from its front.
-/
import GeoRegistry.Text.Split

namespace GeoRegistry.Text

set_option autoImplicit false

/-! ## Runs of a class -/

section Runs

variable {α : Type} {p : α → Bool} {run rest : List α}

/-- A text does not begin with anything of the class. -/
def Stops (p : α → Bool) (cs : List α) : Prop :=
  ∀ c, cs.head? = some c → p c = false

@[simp] theorem stops_nil : Stops p [] := by simp [Stops]

@[simp] theorem stops_cons {c : α} {cs : List α} : Stops p (c :: cs) ↔ p c = false := by
  simp [Stops]

theorem Stops.of_all {cs : List α} (none_ : ∀ c ∈ cs, p c = false) : Stops p cs :=
  fun c first => none_ c (List.mem_of_mem_head? first)

theorem Stops.takeWhile_eq (stops : Stops p rest) : rest.takeWhile p = [] := by
  cases rest with
  | nil => rfl
  | cons c cs => simp [stops_cons.1 stops]

theorem Stops.dropWhile_eq (stops : Stops p rest) : rest.dropWhile p = rest := by
  cases rest with
  | nil => rfl
  | cons c cs => simp [stops_cons.1 stops]

theorem takeWhile_run (all : ∀ c ∈ run, p c = true) (stops : Stops p rest) :
    (run ++ rest).takeWhile p = run := by
  rw [List.takeWhile_append_of_pos all, stops.takeWhile_eq, List.append_nil]

theorem dropWhile_run (all : ∀ c ∈ run, p c = true) (stops : Stops p rest) :
    (run ++ rest).dropWhile p = rest := by
  rw [List.dropWhile_append_of_pos all, stops.dropWhile_eq]

end Runs

/-! ## Pieces -/

section Pieces

variable {sep : Char}

/-- What comes before a text without the character belongs to its first piece. -/
theorem split_append {a b first : List Char} {rest : List (List Char)} (free : sep ∉ a)
    (taken : split sep b = first :: rest) : split sep (a ++ b) = (a ++ first) :: rest := by
  induction a with
  | nil => simpa using taken
  | cons c cs ih =>
      have other : c ≠ sep := fun same => free (by simp [same])
      have apart := ih fun member => free (.tail _ member)
      simp [split, other, apart]

theorem split_sep_cons (b : List Char) : split sep (sep :: b) = [] :: split sep b := by
  simp [split]

/-- A text has a first piece, which begins as the text does. -/
theorem split_eq_cons (sep : Char) (cs : List Char) :
    ∃ rest, split sep cs = cs.takeWhile (· != sep) :: rest := by
  induction cs with
  | nil => exact ⟨[], rfl⟩
  | cons c cs ih =>
      by_cases here : c = sep
      · subst here
        exact ⟨split c cs, by simp [split]⟩
      · obtain ⟨rest, taken⟩ := ih
        exact ⟨rest, by simp [split, here, taken]⟩

end Pieces

end GeoRegistry.Text
