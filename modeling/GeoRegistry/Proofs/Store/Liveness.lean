/-
# Proofs.Store.Liveness -- things that are there, and things that are gone

A thing is live while its row is there and not marked deleted.  Every statement about a
single thing looks for a live one: where there is none it counts none, reads nothing and
changes nothing (`Executes.of_gone`).  And only marking it deleted ends a thing's life
(`Executes.of_buried`).
-/
import GeoRegistry.Proofs.Store.Things

namespace GeoRegistry.Store

set_option autoImplicit false

open Sql

namespace Things

/-- The thing of the id is there, and not deleted. -/
def Live (t : Things) (id : Uuid) : Prop :=
  ∃ row, t.rows id = some row ∧ row "_deleted" = .bool false

/-- Every row is marked deleted, or marked not deleted. -/
def Flagged (t : Things) : Prop :=
  ∀ id row, t.rows id = some row → ∃ gone, row "_deleted" = .bool gone

theorem flagged_empty : empty.Flagged := by
  intro id row there
  simp at there

end Things

/-! ## What is found of a thing that is gone -/

namespace Command

/-- The id of the thing that a command is about. -/
def about? : Command → Option Cell
  | .exist .things id | .isOwner .things id _ | .get .things id | .updateThing id _ _
  | .softDelete .things id _ => some id
  | _ => none

/-- What a command answers that finds no thing. -/
def Use.nothing : Use → Cell
  | .count => .int 0
  | .read => .null
  | .change => .text "UPDATE 0"

end Command

section About

variable {i : Interpretation} {s : Store} {t t' : Things} {q : Command} {effect : Effect}
  {id : Uuid}

/-- A command about a thing selects the live one of that id only. -/
theorem selects_about {use : Command.Use} {c : Clause} {cell : Cell} {row : Row}
    (listed : q.condition? = some (use, c)) (about : q.about? = some cell)
    (selected : Clause.Selects i (s.statement q).args row c) :
    i.equals (row "id") cell = .yes ∧ i.equals (row "_deleted") (.bool false) = .yes := by
  unfold Command.condition? at listed
  split at listed <;> simp at listed <;> obtain ⟨-, rfl⟩ := listed
  all_goals obtain rfl := Option.some.inj about
  · exact selects_byId_iff.1 selected
  · obtain ⟨same, -, live⟩ := selects_byOwner_iff.1 selected
    exact ⟨same, live⟩
  · exact selects_byId_iff.1 selected
  · exact selects_byId_iff.1 selected
  · exact selects_byId_iff.1 selected

/-- So where it is gone, none is selected. -/
theorem not_selects_of_gone {use : Command.Use} {c : Clause} (flagged : t.Flagged)
    (about : q.about? = some (.uuid id)) (gone : ¬ t.Live id)
    (listed : q.condition? = some (use, c)) (id' : Uuid) :
    ¬ t.Selects i (s.statement q).args c id' := by
  rintro ⟨row, there, selected⟩
  obtain ⟨same, live⟩ := selects_about listed about selected
  obtain rfl : id' = id := Things.eq_of_equals there same
  obtain ⟨mark, marked⟩ := flagged id' row there
  rw [marked, i.equals_bool_iff] at live
  exact gone ⟨row, there, live ▸ marked⟩

/-- **Of a thing that is gone nothing is found.** -/
theorem Executes.of_gone {v : Cell} (flagged : t.Flagged) (about : q.about? = some (.uuid id))
    (gone : ¬ t.Live id) (done : Executes i s t q (.returned v) effect t') :
    ∃ use c, q.condition? = some (use, c) ∧ v = use.nothing := by
  have none_ {use : Command.Use} {c : Clause} (asks : q.Asks s use c) :=
    not_selects_of_gone (i := i) (s := s) flagged about gone asks.listed
  cases done with
  | @counted q c ids asks distinct found =>
      have empty : ids = [] := by
        apply List.eq_nil_iff_forall_not_mem.2
        intro id' member
        exact none_ asks id' ((found id').1 member)
      subst empty
      exact ⟨.count, c, asks.listed, rfl⟩
  | found asks selected => exact absurd selected (none_ asks _)
  | @missed q c asks unselected => exact ⟨.read, c, asks.listed, rfl⟩
  | inserted => cases about
  | @changed q c id' old new asks there selected updated named =>
      exact absurd ⟨old, there, selected⟩ (none_ asks id')
  | @unchanged q c asks unselected => exact ⟨.change, c, asks.listed, rfl⟩
  | elsewhere other =>
      unfold Command.about? at about
      split at about <;> simp_all [Command.elsewhere]

/-- It can be counted as none. -/
theorem Executes.count_gone {c : Clause} (flagged : t.Flagged)
    (about : q.about? = some (.uuid id)) (gone : ¬ t.Live id)
    (listed : q.condition? = some (.count, c)) :
    Executes i s t q (.returned (.int 0)) .none t := by
  have found : ∀ id', id' ∈ ([] : List Uuid) ↔ t.Selects i (s.statement q).args c id' := by
    intro id'
    constructor
    · rintro ⟨⟩
    · intro selected
      exact absurd selected (not_selects_of_gone flagged about gone listed id')
  exact .counted (Command.asks_of_listed listed) List.nodup_nil found

/-- What is counted above zero is there. -/
theorem Executes.live_of_exist {v : Cell} {n : Int} (flagged : t.Flagged)
    (done : Executes i s t (.exist .things (.uuid id)) (.returned v) effect t')
    (counted : v.count = .ok n) (some_ : 0 < n) : t.Live id := by
  apply Classical.byContradiction
  intro gone
  obtain ⟨use, c, listed, rfl⟩ := done.of_gone flagged rfl gone
  cases listed
  cases counted
  exact absurd some_ (Int.lt_irrefl 0)

/-- Who is not counted as the owner of their thing has none that is live. -/
theorem Executes.gone_of_isOwner {user n : Int} {v : Cell} {row : Row}
    (done : Executes i s t (.isOwner .things (.uuid id) user) (.returned v) effect t')
    (counted : v.count = .ok n) (none_ : ¬ 0 < n) (there : t.rows id = some row)
    (owner : row "_created_by" = .int user) : ¬ t.Live id := by
  rintro ⟨row', there', live⟩
  obtain rfl : row = row' := Option.some.inj (there.symm.trans there')
  obtain ⟨same, alive⟩ := Things.equals_of_live (i := i) there live
  cases done with
  | @counted q c ids asks distinct found =>
      obtain rfl : Clause.byOwner "id" "_created_by" = c := by
        simpa [Command.condition?] using asks.listed
      have owns : i.equals (row "_created_by") (.int user) = .yes := by
        rw [owner]
        exact i.equals_int_iff.2 rfl
      have member := (found id).2 ⟨row, there, selects_byOwner_iff.2 ⟨same, owns, alive⟩⟩
      have some_ := List.length_pos_of_mem member
      rw [count_int] at counted
      have length := Except.ok.inj counted
      omega
  | found asks => cases asks.listed
  | missed asks => cases asks.listed
  | changed asks => cases asks.listed
  | unchanged asks => cases asks.listed
  | elsewhere other => simp [Command.elsewhere] at other

end About

/-! ## What ends the life of a thing -/

namespace Executes

variable {i : Interpretation} {s : Store} {t t' : Things} {q : Command} {reply : Reply}
  {effect : Effect} {id : Uuid}

/-- A changed row keeps its mark, or is marked deleted by the command for that. -/
theorem marks (done : Executes i s t q reply effect t') (effected : effect = .changed id) :
    ∃ old new, t.rows id = some old ∧ t'.rows id = some new ∧
      (new "_deleted" = old "_deleted" ∧ (∃ cell user content, q = .updateThing cell user content) ∨
        new "_deleted" = .bool true ∧ ∃ cell user, q = .softDelete .things cell user) := by
  induction done with
  | @changed q c id' old new asks there selected updated named =>
      cases effected
      refine ⟨old, new, there, Things.rows_put_self .., ?_⟩
      have listed := asks.listed
      unfold Command.condition? at listed
      split at listed
      case h_4 cell user content =>
        exact .inl ⟨(updated "_deleted").2 rfl, cell, user, content, rfl⟩
      case h_5 cell user =>
        exact .inr ⟨((updated "_deleted").1 [.text "true"] rfl).2 rfl, cell, user, rfl⟩
      all_goals simp at listed
  | lost _ ih => exact ih effected
  | _ => cases effected

theorem flagged (done : Executes i s t q reply effect t') (flagged : t.Flagged) : t'.Flagged := by
  intro id row there
  by_cases fresh : effect = .inserted id
  · obtain ⟨-, -, -, row', -, -, there', -, live⟩ := done.of_inserted fresh
    obtain rfl : row' = row := Option.some.inj (there'.symm.trans there)
    exact ⟨false, live⟩
  · by_cases touched : effect = .changed id
    · obtain ⟨old, new, before, after, ⟨kept, -⟩ | ⟨marked, -⟩⟩ := done.marks touched
      · obtain rfl : new = row := Option.some.inj (after.symm.trans there)
        rw [kept]
        exact flagged id old before
      · obtain rfl : new = row := Option.some.inj (after.symm.trans there)
        exact ⟨true, marked⟩
    · rw [done.rows_eq ⟨fresh, touched⟩] at there
      exact flagged id row there

/-- **Only marking it deleted ends the life of a thing.** -/
theorem of_buried (done : Executes i s t q reply effect t') (live : t.Live id)
    (gone : ¬ t'.Live id) :
    effect = .changed id ∧ ∃ cell user, q = .softDelete .things cell user := by
  obtain ⟨row, there, alive⟩ := live
  by_cases touched : effect = .changed id
  · obtain ⟨old, new, before, after, ⟨kept, -⟩ | ⟨-, deletes⟩⟩ := done.marks touched
    · obtain rfl : old = row := Option.some.inj (before.symm.trans there)
      exact absurd ⟨new, after, kept.trans alive⟩ gone
    · exact ⟨touched, deletes⟩
  · by_cases fresh : effect = .inserted id
    · obtain ⟨free, -⟩ := done.of_inserted fresh
      rw [free] at there
      cases there
    · have same := done.rows_eq ⟨fresh, touched⟩
      exact absurd ⟨row, same.trans there, alive⟩ gone

/-- What was marked deleted is gone. -/
theorem gone_of_softDelete {cell : Cell} {user : Int}
    (done : Executes i s t (.softDelete .things cell user) reply (.changed id) t') :
    ¬ t'.Live id := by
  rintro ⟨row, there, live⟩
  obtain ⟨old, new, -, after, ⟨-, cell', user', content, other⟩ | ⟨marked, -⟩⟩ := done.marks rfl
  · cases other
  · obtain rfl : new = row := Option.some.inj (after.symm.trans there)
    rw [marked] at live
    cases live

end Executes

end GeoRegistry.Store
