/-
# Proofs.Store.Definite -- reading an answer never finds that there was none

`noRows` is how an operation says that its query matched nothing.  Only three places
say it, each looking at the whole answer; what is read out of an answer, a count, a
number of changed rows, a row or its parts, fails because the value cannot be read
(`IsReading`), and in no other way.
-/
import GeoRegistry.Proofs.Store

namespace GeoRegistry

set_option autoImplicit false

/-- A value cannot be read: it has another type, range or shape than what is asked for. -/
def Failure.IsMisreading : Failure → Prop
  | .wrongType | .noAttribute | .badValue _ | .overflow _ | .invalid .. => True
  | _ => False

namespace Store

open Dialogue

variable {α β : Type}

/-! ## Outcomes that are no empty answers -/

/-- An outcome is not that a query matched no row. -/
def Definite (o : Except Failure α) : Prop :=
  o ≠ .error .noRows

theorem definite_ok (a : α) : Definite (.ok a) := by
  simp [Definite]

theorem definite_error {e : Failure} (other : e ≠ .noRows) :
    Definite (.error e : Except Failure α) := by
  simpa [Definite] using other

theorem Definite.bind {o : Except Failure α} {f : α → Except Failure β} (first : Definite o)
    (rest : ∀ a, Definite (f a)) : Definite (o.bind f) := by
  cases o with
  | error e => exact definite_error fun same => first (by rw [same])
  | ok a => exact rest a

theorem definite_mapError {ε : Type} {f : ε → Failure} (o : Except ε α) (named : ∀ e, f e ≠ .noRows) :
    Definite (o.mapError f) := by
  cases o with
  | error e => exact definite_error (named e)
  | ok a => exact definite_ok a

theorem definite_orNothing {o instead : Except Failure α} (named : Definite instead) :
    Definite (orNothing instead o) := by
  by_cases none_ : o = .error .noRows
  · subst none_
    exact named
  · rw [orNothing_of_ne none_]
    exact none_

theorem consequence_ne (f : StatementFailure) : consequence f ≠ .noRows := by
  unfold consequence
  cases verdict f.fault <;> simp

theorem definite_settled (reply : Reply) : Definite (settled reply) := by
  cases reply with
  | returned v => exact definite_ok v
  | failed f => exact definite_error (consequence_ne f)

/-! ## Reading values -/

/-- An outcome of reading a value: a result, or that the value cannot be read so. -/
def IsReading (o : Except Failure α) : Prop :=
  ∀ e, o = .error e → e.IsMisreading

theorem isReading_ok (a : α) : IsReading (.ok a) := by
  simp [IsReading]

theorem isReading_error {e : Failure} (misread : e.IsMisreading) :
    IsReading (.error e : Except Failure α) := by
  rintro e' ⟨⟩
  exact misread

theorem IsReading.bind {o : Except Failure α} {f : α → Except Failure β} (first : IsReading o)
    (rest : ∀ a, IsReading (f a)) : IsReading (o.bind f) := by
  cases o with
  | error e => exact isReading_error (first e rfl)
  | ok a => exact rest a

theorem isReading_mapError {ε : Type} {f : ε → Failure} (o : Except ε α)
    (misread : ∀ e, (f e).IsMisreading) : IsReading (o.mapError f) := by
  cases o with
  | error e => exact isReading_error (misread e)
  | ok a => exact isReading_ok a

/-- Reading a value never says that there was none. -/
theorem IsReading.definite {o : Except Failure α} (reading : IsReading o) : Definite o :=
  fun none_ => reading .noRows none_

theorem isReading_integer (v : Cell) : IsReading v.integer := by
  unfold Cell.integer
  split
  · exact isReading_ok _
  · exact isReading_ok _
  · split
    · exact isReading_ok _
    · exact isReading_error trivial
    · exact isReading_error trivial
  · split
    · exact isReading_ok _
    · exact isReading_error trivial
    · exact isReading_error trivial
  · exact isReading_mapError _ fun e => by cases e <;> trivial
  · exact isReading_ok _
  all_goals exact isReading_error trivial

theorem isReading_count (v : Cell) : IsReading v.count := by
  unfold Cell.count
  by_cases nothing : v.isFalsy = true
  · simp only [nothing, if_true]
    exact isReading_ok _
  · simp only [nothing]
    exact isReading_integer v

theorem isReading_affected (v : Cell) : IsReading (affected v) := by
  cases v with
  | text status => exact isReading_ok _
  | _ => exact isReading_error trivial

theorem isReading_parts (v : Cell) : IsReading (parts v) := by
  unfold parts
  cases parts? v with
  | some cells => exact isReading_ok cells
  | none => exact isReading_error trivial

theorem isReading_nameOf (v : Cell) : IsReading (nameOf v) := by
  cases v <;> first | exact isReading_ok _ | exact isReading_error trivial

theorem isReading_pairAt (index : Nat) (v : Cell) : IsReading (pairAt index v) := by
  refine (isReading_parts v).bind fun cells => ?_
  match cells with
  | [name, value] => exact (isReading_nameOf name).bind fun _ => isReading_ok _
  | [] | [_] | _ :: _ :: _ :: _ => exact isReading_error trivial

theorem isReading_pairsFrom (index : Nat) (cells : List Cell) :
    IsReading (pairsFrom index cells) := by
  induction cells generalizing index with
  | nil => exact isReading_ok _
  | cons c rest ih =>
      exact (isReading_pairAt index c).bind fun _ =>
        (ih (index + 1)).bind fun _ => isReading_ok _

theorem isReading_rowRecord (v : Cell) : IsReading (rowRecord v) := by
  unfold rowRecord
  split
  · exact isReading_ok _
  · exact (isReading_parts _).bind fun cells =>
      (isReading_pairsFrom 0 cells).bind fun _ => isReading_ok _

theorem isReading_readRow (shape : Shape α) (row : Cell) : IsReading (readRow shape row) :=
  (isReading_rowRecord row).bind fun _ => isReading_mapError _ fun _ => trivial

theorem isReading_readRows (shape : Shape α) (rows : List Cell) :
    IsReading (readRows shape rows) := by
  induction rows with
  | nil => exact isReading_ok _
  | cons row rest ih =>
      exact (isReading_readRow shape row).bind fun _ => ih.bind fun _ => isReading_ok _

/-! ## Reading replies -/

theorem definite_counted (reply : Reply) : Definite (counted reply) :=
  (definite_settled reply).bind fun v => (isReading_count v).definite

theorem definite_answered (reply : Reply) : Definite (answered reply) :=
  (definite_counted reply).bind fun _ => definite_ok _

theorem definite_changeOf (what complaint : String) (reply : Reply) :
    Definite (changeOf what complaint reply) := by
  refine ((definite_settled reply).bind fun v => (isReading_affected v).definite).bind fun n => ?_
  by_cases few : n < 1
  · simp only [few, if_true]
    exact definite_error (by simp [unchanged])
  · simp only [few, if_false]
    exact definite_ok _

end Store

end GeoRegistry
