/-
# Proofs.Store.Verb -- which statements write, by their text

The first word of a statement says what it does.  `isWrite_statement` ties it to the
commands: the statements that add or change rows are those of the commands that
write, and the text of every other statement begins with SELECT.
-/
import GeoRegistry.Store.Command

namespace GeoRegistry.Store

set_option autoImplicit false

open Sql

/-! ## Beginnings -/

/-- A text begins with another one. -/
def Starts (opening s : String) : Prop :=
  ∃ rest, s = opening ++ rest

theorem Starts.append {opening s : String} (starts : Starts opening s) (t : String) :
    Starts opening (s ++ t) := by
  obtain ⟨rest, rfl⟩ := starts
  exact ⟨rest ++ t, String.append_assoc ..⟩

theorem Starts.render {opening s : String} (starts : Starts opening s) (f : Fragment) :
    Starts opening (Fragment.render (.text s :: f)) := by
  have whole := starts.append (Fragment.render f)
  simpa [Fragment.render, Piece.render, String.join_cons] using whole

/-- How the statement of a command begins. -/
def opening : Command → String
  | .features .. => "\nSELECT "
  | .insertThing .. | .insertType .. => "\nINSERT "
  | .updateThing .. | .updateType .. => "\nUPDATE "
  | .softDelete .. => "UPDATE "
  | _ => "SELECT "

theorem statement_starts (s : Store) (c : Command) : Starts (opening c) (s.statement c).sql := by
  have select : Starts "SELECT " "SELECT " := ⟨"", by decide⟩
  have count : Starts "SELECT " "SELECT COUNT(*) FROM " := ⟨"COUNT(*) FROM ", by decide⟩
  have features : Starts "\nSELECT " "\nSELECT row_to_json(fc)::text\n" :=
    ⟨"row_to_json(fc)::text\n", by decide⟩
  have mark : Starts "UPDATE " "UPDATE " := ⟨"", by decide⟩
  have replace : Starts "\nUPDATE " "\nUPDATE " := ⟨"", by decide⟩
  have insert : Starts "\nINSERT " "\nINSERT INTO " := ⟨"INTO ", by decide⟩
  have probe : Starts "SELECT " "SELECT 1;" := ⟨"1;", by decide⟩
  cases c
  case probe => exact probe
  all_goals
    apply Starts.render
    repeat apply Starts.append
    assumption

/-! ## First words -/

/-- The first word of a statement. -/
def Statement.verb (s : Statement) : List Char :=
  (s.sql.toList.dropWhile Text.isBlank).takeWhile (!Text.isBlank ·)

/-- A statement that adds, changes or removes rows. -/
def Statement.isWrite (s : Statement) : Bool :=
  s.verb = "INSERT".toList || s.verb = "UPDATE".toList || s.verb = "DELETE".toList

/-- A word between blanks is the first one. -/
theorem firstWord_eq {blanks word rest : List Char} (before : blanks.all Text.isBlank = true)
    (solid : word.all (!Text.isBlank ·) = true) (some_ : word ≠ []) :
    ((blanks ++ (word ++ ' ' :: rest)).dropWhile Text.isBlank).takeWhile (!Text.isBlank ·) =
      word := by
  have blank : ∀ c ∈ blanks, Text.isBlank c = true := by simpa using before
  have written : ∀ c ∈ word, (!Text.isBlank c) = true := by simpa using solid
  rw [List.dropWhile_append_of_pos blank]
  cases word with
  | nil => exact absurd rfl some_
  | cons c cs =>
      have first : Text.isBlank c = false := by simpa using written c (.head _)
      rw [List.cons_append, List.dropWhile_cons_of_neg (by simp [first]), ← List.cons_append,
        List.takeWhile_append_of_pos written]
      have space : Text.isBlank ' ' = true := by decide
      simp [space]

/-- A statement that begins with a word, after blanks, has it for its first one. -/
theorem verb_of_starts (blanks word : List Char) {s : Statement} {opening : String}
    (starts : Starts opening s.sql) (spelled : opening.toList = blanks ++ (word ++ [' ']))
    (before : blanks.all Text.isBlank = true) (solid : word.all (!Text.isBlank ·) = true)
    (some_ : word ≠ []) : s.verb = word := by
  obtain ⟨rest, whole⟩ := starts
  rw [Statement.verb, whole, String.toList_append, spelled, List.append_assoc, List.append_assoc]
  exact firstWord_eq before solid some_

/-- The first word of the statement of a command. -/
theorem verb_statement (s : Store) (c : Command) :
    (s.statement c).verb = "INSERT".toList ∧ c.writes = true ∨
      (s.statement c).verb = "UPDATE".toList ∧ c.writes = true ∨
      (s.statement c).verb = "SELECT".toList ∧ c.writes = false := by
  have select {t : Statement} (starts : Starts "SELECT " t.sql) : t.verb = "SELECT".toList :=
    verb_of_starts [] "SELECT".toList starts (by simp) rfl (by decide) (by decide)
  have features {t : Statement} (starts : Starts "\nSELECT " t.sql) : t.verb = "SELECT".toList :=
    verb_of_starts ['\n'] "SELECT".toList starts (by simp) (by decide) (by decide) (by decide)
  have insert {t : Statement} (starts : Starts "\nINSERT " t.sql) : t.verb = "INSERT".toList :=
    verb_of_starts ['\n'] "INSERT".toList starts (by simp) (by decide) (by decide) (by decide)
  have mark {t : Statement} (starts : Starts "UPDATE " t.sql) : t.verb = "UPDATE".toList :=
    verb_of_starts [] "UPDATE".toList starts (by simp) rfl (by decide) (by decide)
  have replace {t : Statement} (starts : Starts "\nUPDATE " t.sql) : t.verb = "UPDATE".toList :=
    verb_of_starts ['\n'] "UPDATE".toList starts (by simp) (by decide) (by decide) (by decide)
  have starts := statement_starts s c
  cases c with
  | features => exact .inr (.inr ⟨features starts, rfl⟩)
  | insertThing => exact .inl ⟨insert starts, rfl⟩
  | insertType => exact .inl ⟨insert starts, rfl⟩
  | updateThing => exact .inr (.inl ⟨replace starts, rfl⟩)
  | updateType => exact .inr (.inl ⟨replace starts, rfl⟩)
  | softDelete => exact .inr (.inl ⟨mark starts, rfl⟩)
  | _ => exact .inr (.inr ⟨select starts, rfl⟩)

/-- **The statements that write are those of the commands that write.** -/
theorem isWrite_statement (s : Store) (c : Command) : (s.statement c).isWrite = c.writes := by
  rw [Statement.isWrite]
  rcases verb_statement s c with ⟨first, writes⟩ | ⟨first, writes⟩ | ⟨first, writes⟩
  · rw [first, writes]
    decide
  · rw [first, writes]
    decide
  · rw [first, writes]
    decide

end GeoRegistry.Store
