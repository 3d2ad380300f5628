/-
# Proofs.Store.Things -- what the statements of the registry do to the table of things

The table holds at most one row for each id, and each statement is executed at once as
its text says (`Executes`): what is counted, read and changed are the rows that its
condition selects, and what is written are the expressions it assigns.  Which condition and
which expressions these are is what the text of the statement is read as (`Command.Asks`,
`Command.Adds`).  The database may answer as it likes about everything else, and any statement
may fail, before its effect or after it.

The laws say what an execution can do to a row: it stays with its owner, for good once
it is deleted, and it is changed only by a statement that selects it by its id.
-/
import GeoRegistry.Proofs.Store.Sentences

namespace GeoRegistry.Store

set_option autoImplicit false

open Sql

/-! ## The table -/

/-- A table of things: at most one row for each id. -/
structure Things where
  rows : Uuid → Option Row
  keyed : ∀ id row, rows id = some row → row "id" = .uuid id

namespace Things

/-- No things. -/
def empty : Things where
  rows _ := none
  keyed := by simp

/-- The table with another row for its id. -/
def put (t : Things) (id : Uuid) (row : Row) (named : row "id" = .uuid id) : Things where
  rows id' := if id' = id then some row else t.rows id'
  keyed := by
    intro id' row' there
    by_cases same : id' = id
    · subst same
      obtain rfl : row = row' := by simpa using there
      exact named
    · exact t.keyed id' row' (by simpa [same] using there)

@[simp] theorem rows_empty (id : Uuid) : empty.rows id = none := rfl

@[simp] theorem rows_put_self (t : Things) (id : Uuid) (row : Row) (named : row "id" = .uuid id) :
    (t.put id row named).rows id = some row := by
  simp [put]

theorem rows_put_of_ne {t : Things} {id id' : Uuid} {row : Row} {named : row "id" = .uuid id}
    (other : id' ≠ id) : (t.put id row named).rows id' = t.rows id' := by
  simp [put, other]

/-- The row of the id is one that a clause selects. -/
def Selects (t : Things) (i : Interpretation) (args : List Cell) (c : Clause) (id : Uuid) : Prop :=
  ∃ row, t.rows id = some row ∧ Clause.Selects i args row c

end Things

/-! ## What the statements say -/

namespace Command

/-- What a command does with the things that its condition selects. -/
inductive Use where
  | count
  | read
  | change
  deriving DecidableEq, Repr

/-- What a command does with things, and the condition it puts on them. -/
def condition? : Command → Option (Use × Clause)
  | .exist .things _ => some (.count, .byId "id" 1)
  | .isOwner .things _ _ => some (.count, .byOwner "id" "_created_by")
  | .get .things _ => some (.read, .byId "id" 1)
  | .updateThing .. => some (.change, .byId "id" 1)
  | .softDelete .things _ _ => some (.change, .byId "id" 2)
  | _ => none

/-- The columns of things that a command assigns, and the expressions it assigns to them. -/
def assigned (s : Store) : Command → List (String × Fragment)
  | .insertThing .. => (ThingTable.insertion s.schema s.srid).assignments.spelled 1
  | .updateThing .. => (ThingTable.replacement s.schema s.srid).assignments.spelled 2
  | .softDelete .things _ _ => marked
  | _ => []

/-- A command that leaves things alone and does not ask for single ones. -/
def elsewhere : Command → Bool
  | .exist .things _ | .isOwner .things _ _ | .get .things _ | .insertThing .. | .updateThing ..
  | .softDelete .things _ _ => false
  | _ => true

/-- The columns that a command shows or assigns, with their expressions. -/
def columns (s : Store) (q : Command) : Use → List (String × String)
  | .count => [countColumn.said]
  | .read => Table.things.shown
  | .change => (q.assigned s).map fun p => (p.1, p.2.render)

/-- **A command does something with the things that a condition selects**: it is of that kind,
and its statement says so. -/
structure Asks (s : Store) (q : Command) (use : Use) (c : Clause) : Prop where
  listed : q.condition? = some (use, c)
  said : Sentence.SaidBy
    { act := if use = .change then .update else .query, table := ThingTable.table s.schema,
      columns := q.columns s use, condition := some c.text }
    (s.statement q).sql

/-- **A command adds a thing**, as its statement says. -/
def Adds (s : Store) (q : Command) : Prop :=
  Sentence.SaidBy
    { act := .insert, table := ThingTable.table s.schema, columns := q.columns s .change }
    (s.statement q).sql

variable {s : Store} {q : Command}

/-- Every command of such a kind says what it does. -/
theorem asks_of_listed {use : Use} {c : Clause} (listed : q.condition? = some (use, c)) :
    q.Asks s use c := by
  refine ⟨listed, ?_⟩
  unfold condition? at listed
  split at listed <;> simp at listed
  case h_1 id =>
    obtain ⟨rfl, rfl⟩ := listed
    exact exist_said s .things id
  case h_2 id user =>
    obtain ⟨rfl, rfl⟩ := listed
    exact isOwner_said s .things id user
  case h_3 id =>
    obtain ⟨rfl, rfl⟩ := listed
    rw [text_byFirst]
    exact get_said s .things id
  case h_4 id user content =>
    obtain ⟨rfl, rfl⟩ := listed
    rw [text_byFirst]
    exact updateThing_said s id user content
  case h_5 id user =>
    obtain ⟨rfl, rfl⟩ := listed
    exact softDelete_said s .things id user

theorem adds_insertThing (s : Store) (user : Int) (content : Thing.Content) :
    Adds s (.insertThing user content) :=
  insertThing_said s user content

end Command

/-! ## Execution -/

section Values

variable (i : Interpretation) (args : List Cell)

/-- What an expression may come to: a slot is its argument, and what is computed from
more than that is up to the database. -/
def Yields (e : Fragment) (v : Cell) : Prop :=
  (∀ n, e = [.slot n] → v = i.bound args n) ∧ (e = [.text "true"] → v = .bool true)

/-- A row as an update leaves it: what is not assigned stays. -/
def Updated (assigned : List (String × Fragment)) (old new : Row) : Prop :=
  ∀ column,
    (∀ e, assigned.lookup column = some e → Yields i args e (new column)) ∧
    (assigned.lookup column = none → new column = old column)

/-- A row as an insert makes it: what is not assigned has its default. -/
def Filled (t : Schema.TableDefinition) (assigned : List (String × Fragment)) (new : Row) : Prop :=
  ∀ column,
    (∀ e, assigned.lookup column = some e → Yields i args e (new column)) ∧
    (assigned.lookup column = none → ∀ c ∈ t.columns, c.name = column →
      (c.constraint = none → new column = .null) ∧
      (c.constraint = some (.notNull " DEFAULT false") → new column = .bool false))

end Values

/-- What executing a statement did to the table. -/
inductive Effect where
  | none
  | inserted (id : Uuid)
  | changed (id : Uuid)
  deriving DecidableEq, Repr

/-- A statement is executed at once, as its text says. -/
inductive Executes (i : Interpretation) (s : Store) :
    Things → Command → Reply → Effect → Things → Prop where
  /-- A count is the number of the things selected. -/
  | counted {t : Things} {q : Command} {c : Clause} {ids : List Uuid}
      (asks : q.Asks s .count c) (distinct : ids.Nodup)
      (found : ∀ id, id ∈ ids ↔ t.Selects i (s.statement q).args c id) :
      Executes i s t q (.returned (.int ids.length)) .none t
  /-- The thing selected is answered, in some form. -/
  | found {t : Things} {q : Command} {c : Clause} {id : Uuid} {record : Record}
      (asks : q.Asks s .read c) (selected : t.Selects i (s.statement q).args c id) :
      Executes i s t q (.returned (.record record)) .none t
  | missed {t : Things} {q : Command} {c : Clause}
      (asks : q.Asks s .read c)
      (unselected : ∀ id, ¬ t.Selects i (s.statement q).args c id) :
      Executes i s t q (.returned .null) .none t
  /-- A new row whose id is free is added. -/
  | inserted {t : Things} {user : Int} {content : Thing.Content} {id : Uuid} {row : Row}
      (adds : Command.Adds s (.insertThing user content))
      (filled : Filled i (s.statement (.insertThing user content)).args
        (Schema.thingTable s.schema s.srid) (Command.assigned s (.insertThing user content)) row)
      (named : row "id" = .uuid id) (free : t.rows id = Option.none) :
      Executes i s t (.insertThing user content) (.returned (.text "INSERT 0 1")) (.inserted id)
        (t.put id row named)
  /-- A new row whose id is taken, by a deleted row or another one, is refused. -/
  | taken {t : Things} {user : Int} {content : Thing.Content} {id : Uuid} {row held : Row}
      {message : String} (adds : Command.Adds s (.insertThing user content))
      (filled : Filled i (s.statement (.insertThing user content)).args
        (Schema.thingTable s.schema s.srid) (Command.assigned s (.insertThing user content)) row)
      (named : row "id" = .uuid id) (taken : t.rows id = some held) :
      Executes i s t (.insertThing user content) (.failed ⟨.uniqueViolation, message⟩) .none t
  /-- The thing selected is changed. -/
  | changed {t : Things} {q : Command} {c : Clause} {id : Uuid} {old new : Row}
      (asks : q.Asks s .change c) (there : t.rows id = some old)
      (selected : Clause.Selects i (s.statement q).args old c)
      (updated : Updated i (s.statement q).args (q.assigned s) old new)
      (named : new "id" = .uuid id) :
      Executes i s t q (.returned (.text "UPDATE 1")) (.changed id) (t.put id new named)
  | unchanged {t : Things} {q : Command} {c : Clause}
      (asks : q.Asks s .change c)
      (unselected : ∀ id, ¬ t.Selects i (s.statement q).args c id) :
      Executes i s t q (.returned (.text "UPDATE 0")) .none t
  /-- What is asked about other tables, and about many things, is answered somehow. -/
  | elsewhere {t : Things} {q : Command} {reply : Reply} (other : q.elsewhere = true) :
      Executes i s t q reply .none t
  /-- A statement fails and does nothing. -/
  | failed {t : Things} {q : Command} {f : StatementFailure} :
      Executes i s t q (.failed f) .none t
  /-- A statement is executed and its answer is lost. -/
  | lost {t t' : Things} {q : Command} {reply : Reply} {effect : Effect} {f : StatementFailure}
      (done : Executes i s t q reply effect t') : Executes i s t q (.failed f) effect t'

/-! ## What the conditions select -/

section Conditions

variable {i : Interpretation} {args : List Cell} {row : Row}

theorem selects_byId_iff {column : String} {slot : Int} :
    Clause.Selects i args row (.byId column slot) ↔
      i.equals (row column) (i.bound args slot) = .yes ∧
        i.equals (row "_deleted") (.bool false) = .yes := by
  simp [Clause.byId, Clause.selects_iff, Test.truth, Term.value]

theorem selects_byOwner_iff {column owner : String} :
    Clause.Selects i args row (.byOwner column owner) ↔
      i.equals (row column) (i.bound args 1) = .yes ∧
        i.equals (row owner) (i.bound args 2) = .yes ∧
          i.equals (row "_deleted") (.bool false) = .yes := by
  simp [Clause.byOwner, Clause.selects_iff, Test.truth, Term.value]

/-- A deleted row is selected by none of the conditions on single things. -/
theorem not_selects_of_deleted {q : Command} {use : Command.Use} {c : Clause}
    (listed : q.condition? = some (use, c)) (deleted : row "_deleted" = .bool true) :
    ¬ Clause.Selects i args row c := by
  have dead : i.equals (row "_deleted") (.bool false) ≠ .yes := by
    rw [deleted, Ne, i.equals_bool_iff]
    simp
  have one : c = .byId "id" 1 ∨ c = .byId "id" 2 ∨ c = .byOwner "id" "_created_by" := by
    unfold Command.condition? at listed
    split at listed <;> simp at listed <;> simp [listed.2]
  rcases one with rfl | rfl | rfl
  · exact fun selected => dead (selects_byId_iff.1 selected).2
  · exact fun selected => dead (selects_byId_iff.1 selected).2
  · exact fun selected => dead (selects_byOwner_iff.1 selected).2.2

end Conditions

section Keys

variable {i : Interpretation} {t : Things} {id id' : Uuid} {row : Row}

/-- A row whose id is the one asked for is the row of that id. -/
theorem Things.eq_of_equals (there : t.rows id' = some row)
    (same : i.equals (row "id") (.uuid id) = .yes) : id' = id := by
  rw [t.keyed id' row there] at same
  exact i.equals_uuid_iff.1 same

/-- A row that is not deleted meets what the conditions on its id ask of it. -/
theorem Things.equals_of_live (there : t.rows id = some row)
    (live : row "_deleted" = .bool false) :
    i.equals (row "id") (.uuid id) = .yes ∧
      i.equals (row "_deleted") (.bool false) = .yes := by
  rw [t.keyed id row there, live]
  exact ⟨i.equals_uuid_iff.2 rfl, i.equals_bool_iff.2 rfl⟩

end Keys

/-- Commands that change things assign neither their id nor their owner. -/
theorem change_keeps {s : Store} {q : Command} {c : Clause}
    (listed : q.condition? = some (.change, c)) :
    (q.assigned s).lookup "id" = none ∧ (q.assigned s).lookup "_created_by" = none := by
  unfold Command.condition? at listed
  split at listed
  case h_4 => exact ⟨rfl, rfl⟩
  case h_5 => exact ⟨rfl, rfl⟩
  all_goals simp at listed

/-- A number counts as itself. -/
theorem count_int (n : Int) : (Cell.int n).count = .ok n := by
  by_cases zero : n = 0
  · subst zero
    rfl
  · simp [Cell.count, Cell.isFalsy, zero, Cell.integer]

/-! ## What becomes of a row -/

/-- A row later on: it has the owner it had, and once it is deleted it stays as it is. -/
structure Persists (old new : Row) : Prop where
  owner : new "_created_by" = old "_created_by"
  buried : old "_deleted" = .bool true → new = old

theorem Persists.refl (row : Row) : Persists row row :=
  ⟨rfl, fun _ => rfl⟩

theorem Persists.trans {old mid new : Row} (first : Persists old mid) (second : Persists mid new) :
    Persists old new where
  owner := second.owner.trans first.owner
  buried deleted := by
    have same := first.buried deleted
    subst same
    exact second.buried deleted

/-- Every row of the table is still there later on. -/
def Things.Persist (t t' : Things) : Prop :=
  ∀ id row, t.rows id = some row → ∃ row', t'.rows id = some row' ∧ Persists row row'

theorem Things.Persist.refl (t : Things) : t.Persist t :=
  fun _ row there => ⟨row, there, .refl row⟩

theorem Things.Persist.trans {t t' t'' : Things} (first : t.Persist t') (second : t'.Persist t'') :
    t.Persist t'' := by
  intro id row there
  obtain ⟨row', there', kept⟩ := first id row there
  obtain ⟨row'', there'', kept'⟩ := second id row' there'
  exact ⟨row'', there'', kept.trans kept'⟩

/-- Every row has a user for its owner. -/
def Things.Owned (t : Things) : Prop :=
  ∀ id row, t.rows id = some row → ∃ user, row "_created_by" = .int user

namespace Executes

variable {i : Interpretation} {s : Store} {t t' : Things} {q : Command} {reply : Reply}
  {effect : Effect}

/-- A row that an insert makes has the id of its content, the user for its owner, and is
not deleted. -/
theorem filled_columns {user : Int} {content : Thing.Content} {row : Row}
    (filled : Filled i (s.statement (.insertThing user content)).args
      (Schema.thingTable s.schema s.srid) (Command.assigned s (.insertThing user content)) row) :
    row "id" = .uuid content.id ∧ row "_created_by" = .int user ∧
      row "_deleted" = .bool false := by
  have id_ := ((filled "id").1 [.slot 1] rfl).1 1 rfl
  have owner := ((filled "_created_by").1 [.slot 16] rfl).1 16 rfl
  have flag : Schema.flag "_deleted" ∈ (Schema.thingTable s.schema s.srid).columns := by
    simp [Schema.thingTable, Schema.auditColumns]
  exact ⟨id_, owner, ((filled "_deleted").2 rfl _ flag rfl).2 rfl⟩

/-- **What an execution does to rows**: none is lost, none changes its owner, and a
deleted one is left as it is. -/
theorem persist (done : Executes i s t q reply effect t') : t.Persist t' := by
  induction done with
  | @inserted user content id row adds filled named free =>
      intro id' row' there
      have other : id' ≠ id := by
        rintro rfl
        rw [free] at there
        cases there
      exact ⟨row', (Things.rows_put_of_ne other).trans there, .refl row'⟩
  | @changed q c id old new asks there selected updated named =>
      intro id' row' there'
      by_cases same : id' = id
      · subst same
        obtain rfl : old = row' := Option.some.inj (there.symm.trans there')
        refine ⟨new, Things.rows_put_self .., ?_, fun deleted => ?_⟩
        · exact (updated "_created_by").2 (change_keeps asks.listed).2
        · exact absurd selected (not_selects_of_deleted asks.listed deleted)
      · exact ⟨row', (Things.rows_put_of_ne same).trans there', .refl row'⟩
  | lost _ ih => exact ih
  | _ => exact .refl _

/-- A row is as it was unless the effect is on it. -/
theorem rows_eq (done : Executes i s t q reply effect t') {id : Uuid}
    (spared : effect ≠ .inserted id ∧ effect ≠ .changed id) : t'.rows id = t.rows id := by
  induction done with
  | inserted adds filled named free =>
      exact Things.rows_put_of_ne fun same => spared.1 (by rw [same])
  | changed asks there selected updated named =>
      exact Things.rows_put_of_ne fun same => spared.2 (by rw [same])
  | lost _ ih => exact ih spared
  | _ => rfl

/-- What was inserted was not there, and is the thing of the user who sent it. -/
theorem of_inserted (done : Executes i s t q reply effect t') {id : Uuid}
    (effected : effect = .inserted id) :
    t.rows id = none ∧ ∃ user content row, q = .insertThing user content ∧ content.id = id ∧
      t'.rows id = some row ∧ row "_created_by" = .int user ∧ row "_deleted" = .bool false := by
  induction done with
  | @inserted user content id row adds filled named free =>
      cases effected
      obtain ⟨id_, owner, live⟩ := filled_columns filled
      rw [named] at id_
      exact ⟨free, user, content, row, rfl, (Cell.uuid.inj id_).symm, Things.rows_put_self ..,
        owner, live⟩
  | lost _ ih => exact ih effected
  | _ => cases effected

/-- What was changed was there, and is the thing of the id that was sent. -/
theorem of_changed (done : Executes i s t q reply effect t') {id : Uuid}
    (effected : effect = .changed id) :
    (∃ row, t.rows id = some row) ∧
      ((∃ cell user content, q = .updateThing cell user content ∧
          i.equals (.uuid id) cell = .yes) ∨
        ∃ cell user, q = .softDelete .things cell user ∧ i.equals (.uuid id) cell = .yes) := by
  induction done with
  | @changed q c id old new asks there selected updated named =>
      cases effected
      refine ⟨⟨old, there⟩, ?_⟩
      have keyed := t.keyed id old there
      have listed := asks.listed
      unfold Command.condition? at listed
      split at listed
      case h_4 cell user content =>
        obtain rfl : Clause.byId "id" 1 = c := by simpa using listed
        refine .inl ⟨cell, user, content, rfl, ?_⟩
        rw [← keyed]
        exact (selects_byId_iff.1 selected).1
      case h_5 cell user =>
        obtain rfl : Clause.byId "id" 2 = c := by simpa using listed
        refine .inr ⟨cell, user, rfl, ?_⟩
        rw [← keyed]
        exact (selects_byId_iff.1 selected).1
      all_goals simp at listed
  | lost _ ih => exact ih effected
  | _ => cases effected

/-- **Who was counted as the owner of a thing is its owner.** -/
theorem of_isOwner {id : Uuid} {user : Int} {v : Cell} {n : Int} (owned : t.Owned)
    (done : Executes i s t (.isOwner .things (.uuid id) user) (.returned v) effect t')
    (counted : v.count = .ok n) (some_ : 0 < n) :
    ∃ row, t.rows id = some row ∧ row "_created_by" = .int user := by
  cases done with
  | @counted q c ids asks distinct found =>
      obtain rfl : Clause.byOwner "id" "_created_by" = c := by
        simpa [Command.condition?] using asks.listed
      have length : (ids.length : Int) = n := by
        rw [count_int] at counted
        exact Except.ok.inj counted
      -- a count above zero counted a row, and the condition pins it down
      have nonempty : ids ≠ [] := by
        rintro rfl
        simp at length
        omega
      obtain ⟨id', member⟩ := List.exists_mem_of_ne_nil ids nonempty
      obtain ⟨row, there, selected⟩ := (found id').1 member
      obtain ⟨sameId, sameUser, -⟩ := selects_byOwner_iff.1 selected
      obtain rfl : id' = id := Things.eq_of_equals there sameId
      obtain ⟨owner, ownedBy⟩ := owned id' row there
      rw [ownedBy] at sameUser
      obtain rfl : owner = user := i.equals_int_iff.1 sameUser
      exact ⟨row, there, ownedBy⟩
  | found asks => cases asks.listed
  | missed asks => cases asks.listed
  | changed asks => cases asks.listed
  | unchanged asks => cases asks.listed
  | elsewhere other => simp [Command.elsewhere] at other

theorem owned (done : Executes i s t q reply effect t') (owned : t.Owned) : t'.Owned := by
  intro id row there
  by_cases fresh : effect = .inserted id
  · obtain ⟨-, user, content, row', -, -, there', owner, -⟩ := done.of_inserted fresh
    obtain rfl : row' = row := Option.some.inj (there'.symm.trans there)
    exact ⟨user, owner⟩
  · by_cases touched : effect = .changed id
    · obtain ⟨⟨old, before⟩, -⟩ := done.of_changed touched
      obtain ⟨row', there', kept⟩ := done.persist id old before
      obtain rfl : row' = row := Option.some.inj (there'.symm.trans there)
      rw [kept.owner]
      exact owned id old before
    · rw [done.rows_eq ⟨fresh, touched⟩] at there
      exact owned id row there

end Executes

/-! ## Rows that can be written -/

section Rows

variable (i : Interpretation)

/-- Something that an expression may come to. -/
def valueOf (args : List Cell) : Fragment → Cell
  | [.slot n] => i.bound args n
  | [.text s] => if s = "true" then .bool true else .null
  | _ => .null

theorem yields_valueOf (args : List Cell) (e : Fragment) : Yields i args e (valueOf i args e) := by
  constructor
  · rintro n rfl
    rfl
  · rintro rfl
    rfl

/-- The columns of things that are false unless something else is said. -/
def flags : List String := ["inactivated", "validated", "_deleted"]

theorem flags_default (schema : String) (srid : Int) :
    ∀ c ∈ (Schema.thingTable schema srid).columns,
      (c.constraint = none → c.name ∉ flags) ∧
      (c.constraint = some (.notNull " DEFAULT false") → c.name ∈ flags) := by
  have reference : " REFERENCES " ++ schema ++ ".type_thing (id)" ≠ " DEFAULT false" := by
    simp [← String.toList_inj]
  simp [Schema.thingTable, Schema.inactivationColumns, Schema.auditColumns, Schema.required,
    Schema.free, Schema.flag, flags, reference]

/-- A row with what is assigned to it, over what it has otherwise. -/
def assignedRow (args : List Cell) (assigned : List (String × Fragment)) (otherwise : Row) : Row :=
  fun column => ((assigned.lookup column).map (valueOf i args)).getD (otherwise column)

/-- What a new thing holds where nothing is assigned. -/
def blankRow : Row :=
  fun column => if column ∈ flags then .bool false else .null

theorem filled_assignedRow (args : List Cell) (assigned : List (String × Fragment))
    (schema : String) (srid : Int) :
    Filled i args (Schema.thingTable schema srid) assigned
      (assignedRow i args assigned blankRow) := by
  intro column
  refine ⟨fun e found => ?_, fun left_ c listed named => ?_⟩
  · simpa [assignedRow, found] using yields_valueOf i args e
  · obtain ⟨plain, flagged⟩ := flags_default schema srid c listed
    rw [named] at plain flagged
    refine ⟨fun none_ => ?_, fun default_ => ?_⟩
    · simp [assignedRow, left_, blankRow, plain none_]
    · simp [assignedRow, left_, blankRow, flagged default_]

theorem updated_assignedRow (args : List Cell) (assigned : List (String × Fragment)) (row : Row) :
    Updated i args assigned row (assignedRow i args assigned row) := by
  intro column
  refine ⟨fun e found => ?_, fun left_ => ?_⟩
  · simpa [assignedRow, found] using yields_valueOf i args e
  · simp [assignedRow, left_]

end Rows

namespace Executes

variable {i : Interpretation} {s : Store} {t : Things}

/-- A thing whose id is free can be inserted. -/
theorem insert (user : Int) (content : Thing.Content) (free : t.rows content.id = none) :
    ∃ t', Executes i s t (.insertThing user content) (.returned (.text "INSERT 0 1"))
      (.inserted content.id) t' := by
  have filled := filled_assignedRow i (s.statement (.insertThing user content)).args
    (Command.assigned s (.insertThing user content)) s.schema s.srid
  obtain ⟨named, -⟩ := filled_columns filled
  exact ⟨_, .inserted (Command.adds_insertThing s user content) filled named free⟩

/-- The rows that a condition on an id selects are the one of that id, or none. -/
theorem count_one {q : Command} {c : Clause} {id : Uuid} (listed : q.condition? = some (.count, c))
    (selected : t.Selects i (s.statement q).args c id)
    (only : ∀ id', t.Selects i (s.statement q).args c id' → id' = id) :
    Executes i s t q (.returned (.int 1)) .none t := by
  have found : ∀ id', id' ∈ [id] ↔ t.Selects i (s.statement q).args c id' := by
    intro id'
    rw [List.mem_singleton]
    constructor
    · rintro rfl
      exact selected
    · exact only id'
  exact .counted (Command.asks_of_listed listed) (by simp) found

/-- A thing that is there can be counted, and its owner counted as such. -/
theorem count_there {id : Uuid} {row : Row} (there : t.rows id = some row)
    (live : row "_deleted" = .bool false) :
    Executes i s t (.exist .things (.uuid id)) (.returned (.int 1)) .none t ∧
      ∀ user, row "_created_by" = .int user →
        Executes i s t (.isOwner .things (.uuid id) user) (.returned (.int 1)) .none t := by
  obtain ⟨same, alive⟩ := Things.equals_of_live (i := i) there live
  refine ⟨count_one rfl ⟨row, there, selects_byId_iff.2 ⟨same, alive⟩⟩ ?_, fun user owner => ?_⟩
  · rintro id' ⟨row', there', selected⟩
    exact Things.eq_of_equals there' (selects_byId_iff.1 selected).1
  · have owns : i.equals (row "_created_by") (.int user) = .yes := by
      rw [owner]
      exact i.equals_int_iff.2 rfl
    refine count_one rfl ⟨row, there, selects_byOwner_iff.2 ⟨same, owns, alive⟩⟩ ?_
    rintro id' ⟨row', there', selected⟩
    exact Things.eq_of_equals there' (selects_byOwner_iff.1 selected).1

/-- A thing that is there can be marked deleted. -/
theorem delete {id : Uuid} {row : Row} (there : t.rows id = some row)
    (live : row "_deleted" = .bool false) (user : Int) :
    ∃ t', Executes i s t (.softDelete .things (.uuid id) user) (.returned (.text "UPDATE 1"))
      (.changed id) t' := by
  obtain ⟨same, alive⟩ := Things.equals_of_live (i := i) there live
  have updated := updated_assignedRow i (s.statement (.softDelete .things (.uuid id) user)).args
    (Command.assigned s (.softDelete .things (.uuid id) user)) row
  exact ⟨_, .changed (Command.asks_of_listed rfl) there (selects_byId_iff.2 ⟨same, alive⟩) updated
    (t.keyed id row there)⟩

/-- A thing that is not there is counted as none. -/
theorem count_none {id : Uuid} (free : t.rows id = none) :
    Executes i s t (.exist .things (.uuid id)) (.returned (.int 0)) .none t := by
  have found : ∀ id', id' ∈ ([] : List Uuid) ↔
      t.Selects i (s.statement (.exist .things (.uuid id))).args (.byId "id" 1) id' := by
    intro id'
    constructor
    · rintro ⟨⟩
    · rintro ⟨row', there', selected⟩
      obtain rfl : id' = id := Things.eq_of_equals there' (selects_byId_iff.1 selected).1
      rw [free] at there'
      cases there'
  exact .counted (Command.asks_of_listed rfl) List.nodup_nil found

end Executes

end GeoRegistry.Store
