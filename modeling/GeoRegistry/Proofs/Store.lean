/-
# Proofs.Store -- what each operation of the store asks, and makes of the reply

Every operation of a collection sends one statement, and so does every write but
those that are read back, which send two.  Each has one law (`_asks`) that names
the command and the outcome for every reply; nothing else about the operation is
used later.
-/
import GeoRegistry.Proofs.Dialogue
import GeoRegistry.Store.Writing

namespace GeoRegistry.Store

set_option autoImplicit false

open Dialogue

/-! ## Replies -/

/-- What a reply is to the operation that asked. -/
def settled : Reply → Except Failure Cell
  | .returned value => .ok value
  | .failed f => .error (consequence f)

/-- The count in a reply. -/
def counted (reply : Reply) : Except Failure Int :=
  (settled reply).bind Cell.count

/-- How many rows a command changed. -/
def changed (reply : Reply) : Except Failure Int :=
  (settled reply).bind affected

@[simp] theorem settled_returned (v : Cell) : settled (.returned v) = .ok v := rfl

@[simp] theorem settled_failed (f : StatementFailure) :
    settled (.failed f) = .error (consequence f) := rfl

@[simp] theorem counted_returned (v : Cell) : counted (.returned v) = v.count := rfl

@[simp] theorem counted_failed (f : StatementFailure) :
    counted (.failed f) = .error (consequence f) := rfl

/-- A count was read from a reply exactly when it was read from the value returned. -/
theorem counted_eq_ok_iff {reply : Reply} {n : Int} :
    counted reply = .ok n ↔ ∃ v, reply = .returned v ∧ v.count = .ok n := by
  cases reply <;> simp

/-! ## Channels -/

section Channel

variable {ε : Type} (ch : Channel ε)

theorem idle_failing {α : Type} (entries : List Log.Entry) (e : Failure) :
    Idle (Channel.failing entries e : Dialogue ε α) (.error e) := by
  induction entries with
  | nil => exact idle_finish _
  | cons entry rest ih => exact ih.note entry

/-- **A statement is sent once**, and its failure is what `consequence` says. -/
theorem send_asks (question : ε) : AsksOnce (ch.send question) question settled := by
  intro h o
  simp only [Channel.send, runs_ask_iff]
  constructor
  · rintro ⟨reply, rest, rfl, ran⟩
    cases reply with
    | returned v =>
        obtain ⟨rfl, rfl⟩ := runs_finish_iff.1 ran
        exact ⟨_, rfl, rfl⟩
    | failed f =>
        obtain ⟨rfl, rfl⟩ := (idle_failing _ _ _ _).1 ran
        exact ⟨_, rfl, rfl⟩
  · rintro ⟨reply, rfl, rfl⟩
    refine ⟨reply, [], rfl, ?_⟩
    cases reply with
    | returned v => exact runs_finish_iff.2 ⟨rfl, rfl⟩
    | failed f => exact (idle_failing _ _ _ _).2 ⟨rfl, rfl⟩

theorem count_asks (question : ε) : AsksOnce (ch.count question) question counted :=
  (send_asks ch question).bind fun v => idle_finish v.count

theorem execute_asks (question : ε) : AsksOnce (ch.execute question) question changed :=
  (send_asks ch question).bind fun v => idle_finish (affected v)

end Channel

/-! ## Collections -/

section Collection

variable {Item Line : Type} (c : Collection Item Line) (s : Store)

/-- The outcome of a question whether something is there. -/
def answered (reply : Reply) : Except Failure Bool :=
  (counted reply).bind fun n => .ok (0 < n)

theorem answered_eq_ok_iff {reply : Reply} {there : Bool} :
    answered reply = .ok there ↔
      ∃ v n, reply = .returned v ∧ v.count = .ok n ∧ (0 < n ↔ there = true) := by
  have decided (n : Int) : decide (0 < n) = there ↔ (0 < n ↔ there = true) := by
    cases there <;> simp
  cases made : counted reply with
  | error e =>
      simp only [answered, made, Except.bind]
      constructor
      · intro read
        cases read
      · rintro ⟨v, n, returned, read, -⟩
        rw [counted_eq_ok_iff.2 ⟨v, returned, read⟩] at made
        cases made
  | ok n =>
      obtain ⟨v, rfl, read⟩ := counted_eq_ok_iff.1 made
      simp [answered, read, Except.bind, decided]

/-- The lines in a reply. -/
def linesOf (shape : Shape Line) (reply : Reply) : Except Failure (List Line) :=
  (settled reply).bind fun found =>
    if found.isFalsy then .error .noRows else (parts found).bind (readRows shape)

/-- The row in a reply. -/
def itemOf (shape : Shape Item) (reply : Reply) : Except Failure Item :=
  (settled reply).bind fun
    | .null => .error .noRows
    | row => readRow shape row

/-- An item comes from a row that was returned. -/
theorem itemOf_eq_ok {shape : Shape Item} {reply : Reply} {a : Item}
    (made : itemOf shape reply = .ok a) :
    ∃ row, reply = .returned row ∧ readRow shape row = .ok a := by
  cases reply with
  | failed f => cases made
  | returned row =>
      refine ⟨row, rfl, ?_⟩
      cases row with
      | null => cases made
      | _ => exact made

/-- The text of a feature collection in a reply. -/
def featuresOf (reply : Reply) : Except Failure Cell :=
  (settled reply).bind fun
    | .null => .error .noRows
    | found => .ok found

/-- What is said of a write that changed no row. -/
def unchanged (what complaint : String) : Failure :=
  .refused (.ofDetail .storage (what ++ " " ++ complaint))

/-- The outcome of a write that must change a row. -/
def changeOf (what complaint : String) (reply : Reply) : Except Failure Unit :=
  (changed reply).bind fun n => if n < 1 then .error (unchanged what complaint) else .ok ()

/-- What is said of a row that was written and cannot be read back. -/
def unreadable (what written : String) : Failure :=
  .refused ((DomainError.ofDetail .storage
    (what ++ " was " ++ written ++ ", but can not be retrieved")).because .noRows)

theorem exist_asks (id : Cell) : AsksOnce (c.exist s id) (.exist c.table id) answered :=
  (count_asks s.channel _).bind fun _ => idle_finish _

theorem isOwner_asks (id : Cell) (user : Int) :
    AsksOnce (c.isOwner s id user) (.isOwner c.table id user) answered :=
  (count_asks s.channel _).bind fun _ => idle_finish _

theorem typeExists_asks (id : Int) : AsksOnce (s.typeExists id) (.typeExists id) answered :=
  (count_asks s.channel _).bind fun _ => idle_finish _

theorem collection_count_asks (filters : Sql.Filters) :
    AsksOnce (c.count s filters) (.count c.table filters) counted :=
  count_asks s.channel _

theorem countTypes_asks : AsksOnce s.countTypes .countTypes counted :=
  count_asks s.channel _

theorem lines_asks (query : String) (command : Command) :
    AsksOnce (c.lines s query command) command (linesOf c.line) := by
  refine (send_asks s.channel command).bind fun found => ?_
  cases found.isFalsy with
  | true => exact (idle_finish _).note _
  | false => exact idle_finish _

theorem list_asks (filters : Sql.Filters) (offset limit : Cell) :
    AsksOnce (c.list s filters offset limit) (.list c.table filters offset limit)
      (linesOf c.line) :=
  fun h o => runs_note_iff.trans (lines_asks c s _ _ h o)

theorem listByColumn_asks (column : String) (value offset limit : Cell) :
    AsksOnce (c.listByColumn s column value offset limit)
      (.listByColumn c.table column value offset limit) (linesOf c.line) :=
  lines_asks c s _ _

theorem features_asks (filters : Sql.Filters) (offset limit : Cell) :
    AsksOnce (things.features s filters offset limit) (.features filters offset limit)
      featuresOf := by
  refine (send_asks s.channel (.features filters offset limit)).bind fun found => ?_
  cases found with
  | null => exact (idle_finish _).note _
  | _ => exact idle_finish _

theorem get_asks (id : Cell) : AsksOnce (c.get s id) (.get c.table id) (itemOf c.item) := by
  refine (send_asks s.channel (.get c.table id)).bind fun row => ?_
  cases row with
  | null => exact (idle_finish _).note _
  | _ => exact idle_finish _

theorem change_asks (complaint : String) (id : Cell) (command : Command) :
    AsksOnce (c.change s complaint id command) command (changeOf c.table.noun complaint) := by
  refine (execute_asks s.channel command).bind fun n => ?_
  by_cases few : n < 1
  · simp only [few, if_true]
    exact (idle_finish _).note _
  · simp only [few, if_false]
    exact idle_finish _

theorem delete_asks (id : Cell) (user : Int) :
    AsksOnce (c.delete s id user) (.softDelete c.table id user)
      (changeOf c.table.noun "was not marked for deletion") :=
  change_asks c s _ id _

theorem readBack_asks (written : String) (id : Cell) :
    AsksOnce (c.readBack s written id) (.get c.table id) fun reply =>
      orNothing (.error (unreadable c.table.noun written)) (itemOf c.item reply) :=
  (get_asks c s id).ifNoRows (idle_finish _)

end Collection

/-! ## Writes -/

/-- The insert of a thing: a taken id is reported as a thing that exists. -/
theorem insertThing_asks (s : Store) (user : Int) (content : Thing.Content) :
    AsksOnce
      ((things.change s "create affected no row" (.uuid content.id)
        (.insertThing user content)).orElse fun e => .fail (idTaken content.id e))
      (.insertThing user content) fun reply =>
        (changeOf "thing" "create affected no row" reply).mapError (idTaken content.id) :=
  (change_asks things s _ _ _).mapError (idTaken content.id)

end GeoRegistry.Store
