/-
# Proofs.Receipt -- a write is acknowledged when it took effect and was read back

A reply to a write reports a number of rows, or nothing (`reported`).  What comes of the write
is decided by that alone (`Concludes`): with no number the operation fails, with none of the
rows it is a failure of the storage, and otherwise the operation goes on.  An operation writes
once and then concludes so, or it fails before (`Delivers`); composition keeps that.

An operation with a result reads the row back under the key that was written, and its result
is what that row says, and nothing else.
-/
import GeoRegistry.Proofs.Store.Definite
import GeoRegistry.Proofs.WriteGate

namespace GeoRegistry

set_option autoImplicit false

/-- The value that a reply returns. -/
def Reply.value : Reply → Cell
  | .returned v => v
  | .failed _ => .null

namespace Registry

open Dialogue Store

/-! ## What a write reports -/

/-- How many rows a reply to a write reports.  A command status says how many; for a new type
it is its id that comes back, and stands for one row. -/
def reported : Command → Reply → Option Int
  | .insertType .., .returned .null => some 0
  | .insertType .., .returned _ => some 1
  | _, .returned (.text status) => some (rowsAffected status)
  | _, _ => none

section Reports

variable {w : Command} {told : Reply} {n : Int}

/-- Every other write reports by its command status. -/
theorem reported_status (other : ∀ user content, w ≠ .insertType user content) (told : Reply) :
    reported w told =
      match told with
      | .returned (.text status) => some (rowsAffected status)
      | _ => none := by
  cases w with
  | insertType user content => exact absurd rfl (other user content)
  | _ =>
      cases told with
      | failed f => rfl
      | returned v => cases v <;> rfl

theorem reported_returned (some_ : reported w told = some n) : ∃ v, told = .returned v := by
  cases told with
  | returned v => exact ⟨v, rfl⟩
  | failed f => cases w <;> cases some_

/-- **What becomes of a write** that must change a row is decided by what its status
reports. -/
theorem changeOf_eq (other : ∀ user content, w ≠ .insertType user content)
    (what complaint : String) :
    (reported w told = none ∧ ∃ e, changeOf what complaint told = .error e) ∨
      (∃ n, reported w told = some n ∧ n < 1 ∧
        changeOf what complaint told = .error (unchanged what complaint)) ∨
      ∃ n, reported w told = some n ∧ 1 ≤ n ∧ changeOf what complaint told = .ok () := by
  rw [reported_status other told]
  cases told with
  | failed f => exact .inl ⟨rfl, _, rfl⟩
  | returned v =>
      cases v with
      | text s =>
          have made : changeOf what complaint (.returned (.text s)) =
              if rowsAffected s < 1 then .error (unchanged what complaint) else .ok () := by
            simp only [changeOf, changed, settled_returned, Except.bind, affected]
          by_cases few : rowsAffected s < 1
          · exact .inr (.inl ⟨_, rfl, few, made.trans (if_pos few)⟩)
          · exact .inr (.inr ⟨_, rfl, Int.not_lt.1 few, made.trans (if_neg few)⟩)
      | _ =>
          refine .inl ⟨rfl, .noAttribute, ?_⟩
          simp only [changeOf, changed, settled_returned, Except.bind, affected]

end Reports

/-! ## What comes of a write -/

variable {α β : Type}

/-- What comes after a write, and how it ends, by what its reply reports. -/
inductive Concludes (w : Command)
    (goesOn : Reply → List (Exchange Command) → Except Failure α → Prop) :
    Reply → List (Exchange Command) → Except Failure α → Prop where
  /-- Nothing is reported. -/
  | silent {told : Reply} {e : Failure} (unreported : reported w told = none) :
      Concludes w goesOn told [] (.error e)
  /-- It is reported that no row was written. -/
  | none {told : Reply} {n : Int} {e : DomainError} (few : reported w told = some n)
      (below : n < 1) (storage : e.refusal = .storage) :
      Concludes w goesOn told [] (.error (.refused e))
  /-- A row is reported to be written. -/
  | some {told : Reply} {n : Int} {after : List (Exchange Command)} {o : Except Failure α}
      (rows : reported w told = some n) (least : 1 ≤ n) (on : goesOn told after o) :
      Concludes w goesOn told after o

/-- A run fails before the write, or it writes once and concludes. -/
def Delivers (w : Command) (goesOn : Reply → List (Exchange Command) → Except Failure α → Prop)
    (d : Dialogue Command α) : Prop :=
  ∀ h o, Runs d h o → (OnlyReads h ∧ ∃ e, o = .error e) ∨
    ∃ before told after, h = before ++ ⟨w, told⟩ :: after ∧ OnlyReads before ∧
      Concludes w goesOn told after o

section Delivers

variable {w : Command} {goesOn : Reply → List (Exchange Command) → Except Failure β → Prop}

/-- Something that only reads may come first. -/
theorem Delivers.after {d : Dialogue Command α} {k : α → Dialogue Command β} (first : Reading d)
    (rest : ∀ a, Delivers w goesOn (k a)) : Delivers w goesOn (d >>= k) := by
  intro h o ran
  rcases runs_bind_iff.1 ran with ⟨e, rfl, ran₁⟩ | ⟨a, h₁, h₂, rfl, ran₁, ran₂⟩
  · exact .inl ⟨first _ _ ran₁, e, rfl⟩
  · have reads := first _ _ ran₁
    rcases rest a _ _ ran₂ with ⟨only, failed⟩ | ⟨before, told, after, rfl, low, concludes⟩
    · exact .inl ⟨onlyReads_append.2 ⟨reads, only⟩, failed⟩
    · exact .inr ⟨h₁ ++ before, told, after, by simp, onlyReads_append.2 ⟨reads, low⟩, concludes⟩

/-- Nothing that asks no more changes what comes of a write. -/
theorem Delivers.then_idle {d : Dialogue Command β} {k : β → Dialogue Command β}
    (delivers : Delivers w goesOn d) (rest : ∀ a, Idle (k a) (.ok a)) :
    Delivers w goesOn (d >>= k) := by
  intro h o ran
  rcases runs_bind_iff.1 ran with ⟨e, rfl, ran₁⟩ | ⟨a, h₁, h₂, rfl, ran₁, ran₂⟩
  · exact delivers _ _ ran₁
  · obtain ⟨rfl, rfl⟩ := (rest a _ _).1 ran₂
    rw [List.append_nil]
    exact delivers _ _ ran₁

/-- The write, and what follows on it. -/
theorem delivers_of_asks {d : Dialogue Command α} {k : α → Dialogue Command β}
    {f : Reply → Except Failure α} (asks : AsksOnce d w f)
    (fails : ∀ told e, f told = .error e → Concludes w goesOn told [] (.error e))
    (goes : ∀ told a, f told = .ok a → ∀ h o, Runs (k a) h o → Concludes w goesOn told h o) :
    Delivers w goesOn (d >>= k) := by
  intro h o ran
  rcases runs_bind_iff.1 ran with ⟨e, rfl, ran₁⟩ | ⟨a, h₁, h₂, rfl, ran₁, ran₂⟩
  · obtain ⟨told, rfl, made⟩ := (asks _ _).1 ran₁
    exact .inr ⟨[], told, [], rfl, onlyReads_nil, fails told e made.symm⟩
  · obtain ⟨told, rfl, made⟩ := (asks _ _).1 ran₁
    exact .inr ⟨[], told, h₂, rfl, onlyReads_nil, goes told a made.symm _ _ ran₂⟩

end Delivers

/-! ## The writes of the store -/

/-- The outcome of a write heeds what is reported: it is a result just when a row was
written, and a failure of the storage when none was. -/
def Heeds (w : Command) (f : Reply → Except Failure α) : Prop :=
  ∀ told,
    (reported w told = none ∧ ∃ e, f told = .error e) ∨
    (∃ n e, reported w told = some n ∧ n < 1 ∧ f told = .error (.refused e) ∧
      e.refusal = .storage) ∨
    ∃ n a, reported w told = some n ∧ 1 ≤ n ∧ f told = .ok a

theorem heeds_changeOf {w : Command} (other : ∀ user content, w ≠ .insertType user content)
    (what complaint : String) : Heeds w (changeOf what complaint) := by
  intro told
  rcases changeOf_eq other what complaint with none_ | ⟨n, few, below, made⟩ | ⟨n, rows, least, made⟩
  · exact .inl none_
  · exact .inr (.inl ⟨n, _, few, below, made, rfl⟩)
  · exact .inr (.inr ⟨n, (), rows, least, made⟩)

/-- Another name for a taken id does not change that. -/
theorem heeds_insertThing (user : Int) (content : Thing.Content) :
    Heeds (.insertThing user content) fun told =>
      (changeOf "thing" "create affected no row" told).mapError (idTaken content.id) := by
  intro told
  have other : ∀ user' content', Command.insertThing user content ≠ .insertType user' content' := by
    simp
  rcases changeOf_eq other "thing" "create affected no row" with
    ⟨unreported, e, made⟩ | ⟨n, few, below, made⟩ | ⟨n, rows, least, made⟩
  · exact .inl ⟨unreported, idTaken content.id e, by simp only [made]; rfl⟩
  · exact .inr (.inl ⟨n, _, few, below, by simp only [made]; rfl, rfl⟩)
  · exact .inr (.inr ⟨n, (), rows, least, by simp only [made]; rfl⟩)

theorem delivers_of_heeds {w : Command}
    {goesOn : Reply → List (Exchange Command) → Except Failure β → Prop} {d : Dialogue Command α}
    {k : α → Dialogue Command β} {f : Reply → Except Failure α} (asks : AsksOnce d w f)
    (heeds : Heeds w f) (goes : ∀ told a h o, Runs (k a) h o → goesOn told h o) :
    Delivers w goesOn (d >>= k) := by
  refine delivers_of_asks asks (fun told e made => ?_) fun told a made h o ran => ?_
  · rcases heeds told with ⟨unreported, -⟩ | ⟨n, e', few, below, made', storage⟩ |
      ⟨n, a, -, -, made'⟩
    · exact .silent unreported
    · cases made.symm.trans made'
      exact .none few below storage
    · cases made.symm.trans made'
  · rcases heeds told with ⟨-, e, made'⟩ | ⟨n, e, -, -, made', -⟩ | ⟨n, a', rows, least, -⟩
    · cases made.symm.trans made'
    · cases made.symm.trans made'
    · exact .some rows least (goes told a h o ran)

/-! ## Reading back, and leaving it at that -/

section GoingOn

variable {Item Line : Type}

/-- The row is asked for, under a key that may depend on the reply to the write, and the
outcome is what is read of it. -/
def ReadsRow (c : Collection Item Line) (written : String) (key : Reply → Cell) (told : Reply)
    (after : List (Exchange Command)) (o : Except Failure Item) : Prop :=
  ∃ reply, after = [⟨.get c.table (key told), reply⟩] ∧
    o = orNothing (.error (unreadable c.table.noun written)) (itemOf c.item reply)

/-- Nothing more is asked. -/
def IsDone (_told : Reply) (after : List (Exchange Command)) (o : Except Failure Unit) : Prop :=
  after = [] ∧ o = .ok ()

theorem runs_readBack {c : Collection Item Line} {s : Store} {written : String}
    {key : Reply → Cell} {told : Reply} {h : List (Exchange Command)} {o : Except Failure Item}
    (ran : Runs (c.readBack s written (key told)) h o) : ReadsRow c written key told h o :=
  (readBack_asks c s written (key told) _ _).1 ran

theorem runs_log {entry : Log.Entry} {told : Reply} {h : List (Exchange Command)}
    {o : Except Failure Unit} (ran : Runs (Dialogue.log entry) h o) : IsDone told h o :=
  ((idle_finish (.ok ())).note entry _ _).1 ran

end GoingOn

/-! ## The operations -/

section Operations

variable (r : Registry) (caller : Caller)

theorem createThing_delivers (content : Thing.Content) :
    Delivers (.insertThing caller.userId content)
      (ReadsRow things "created" fun _ => .uuid content.id) (r.createThing caller content) := by
  rw [createThing_eq]
  refine .after (reading_of_idle (requireName_idle r content.name)) fun _ => ?_
  refine .after (reading_of_asks (requireType_asks r content.typeId) rfl) fun _ => ?_
  refine .after (reading_of_asks (requireAbsent_asks r content.id) rfl) fun _ => ?_
  refine .then_idle ?_ fun created => (idle_finish (.ok created)).note _
  refine .after (reading_log _) fun _ => ?_
  refine delivers_of_heeds (insertThing_asks r.store caller.userId content)
    (heeds_insertThing caller.userId content) ?_
  intro told _ h o ran
  exact runs_readBack ran

theorem updateThing_delivers (id : Uuid) (content : Thing.Content) :
    Delivers (.updateThing (.uuid id) caller.userId content)
      (ReadsRow things "updated" fun _ => .uuid id) (r.updateThing caller id content) := by
  refine .after (reading_of_asks (requireRow_asks r things (.uuid id)) rfl) fun _ => ?_
  refine .after (reading_of_asks (requireOwner_asks r _ _ id caller) rfl) fun _ => ?_
  refine .after (reading_of_idle (requireName_idle r content.name)) fun _ => ?_
  refine .after (reading_of_asks (requireType_asks r content.typeId) rfl) fun _ => ?_
  refine .after (reading_log _) fun _ => ?_
  refine delivers_of_heeds (change_asks things r.store _ _ _) (heeds_changeOf (by simp) _ _) ?_
  intro told _ h o ran
  exact runs_readBack ran

theorem createType_delivers (content : ThingType.Content) :
    Delivers (.insertType caller.userId content) (ReadsRow types "created" Reply.value)
      (r.createType caller content) := by
  refine .after (reading_of_idle (requireAdmin_idle caller)) fun _ => ?_
  refine .after (reading_of_idle (requireName_idle r content.name)) fun _ => ?_
  refine .then_idle ?_ fun created => (idle_finish (.ok created)).note _
  refine delivers_of_asks (send_asks r.store.channel _) (fun told e failed => ?_)
    fun told id settled h o ran => ?_
  · cases told with
    | failed f => exact .silent rfl
    | returned v => cases failed
  · cases told with
    | failed f => cases settled
    | returned v =>
        cases settled
        cases id with
        | null =>
            obtain ⟨rfl, rfl⟩ := ((idle_finish _).note _ _ _).1 ran
            exact .none rfl (by decide) rfl
        | _ => exact .some rfl (Int.le_refl 1) (runs_readBack ran)

theorem updateType_delivers (id : Int) (content : ThingType.Content) :
    Delivers (.updateType (.int id) caller.userId content)
      (ReadsRow types "updated" fun _ => .int id) (r.updateType caller id content) := by
  refine .after (reading_of_idle (requireAdmin_idle caller)) fun _ => ?_
  refine .after (reading_of_asks (requireRow_asks r types (.int id)) rfl) fun _ => ?_
  refine .after (reading_of_idle (requireName_idle r content.name)) fun _ => ?_
  refine delivers_of_heeds (change_asks types r.store _ _ _) (heeds_changeOf (by simp) _ _) ?_
  intro told _ h o ran
  exact runs_readBack ran

theorem deleteThing_delivers (id : Uuid) :
    Delivers (.softDelete .things (.uuid id) caller.userId) IsDone (r.deleteThing caller id) := by
  refine .after (reading_of_asks (requireRow_asks r things (.uuid id)) rfl) fun _ => ?_
  refine .after (reading_of_asks (requireOwner_asks r _ _ id caller) rfl) fun _ => ?_
  refine delivers_of_heeds (delete_asks things r.store _ _)
    (heeds_changeOf (by simp) _ _) ?_
  intro told _ h o ran
  exact runs_log ran

theorem deleteType_delivers (id : Int) :
    Delivers (.softDelete .types (.int id) caller.userId) IsDone (r.deleteType caller id) := by
  refine .after (reading_of_idle (requireAdmin_idle caller)) fun _ => ?_
  refine .after (reading_of_asks (requireRow_asks r types (.int id)) rfl) fun _ => ?_
  refine delivers_of_heeds (delete_asks types r.store _ _)
    (heeds_changeOf (by simp) _ _) ?_
  intro told _ h o ran
  exact runs_log ran

end Operations

/-! ## Acknowledgements -/

section Acknowledgements

variable {w : Command} {goesOn : Reply → List (Exchange Command) → Except Failure α → Prop}
  {d : Dialogue Command α} {h : List (Exchange Command)} {o : Except Failure α}

/-- A result comes from a write that was reported, and what went on after it. -/
theorem Delivers.of_result {a : α} (delivers : Delivers w goesOn d) (ran : Runs d h (.ok a)) :
    ∃ before v n after, h = before ++ ⟨w, .returned v⟩ :: after ∧ OnlyReads before ∧
      reported w (.returned v) = some n ∧ 1 ≤ n ∧ goesOn (.returned v) after (.ok a) := by
  rcases delivers _ _ ran with ⟨-, e, failed⟩ | ⟨before, told, after, rfl, low, concludes⟩
  · cases failed
  · generalize made : (.ok a : Except Failure α) = o at concludes
    cases concludes with
    | silent => cases made
    | none => cases made
    | some rows least on =>
        obtain ⟨v, rfl⟩ := reported_returned rows
        exact ⟨before, v, _, after, rfl, low, rows, least, made ▸ on⟩

/-- Wherever the write stands in a run, what comes after it is what comes of it. -/
theorem Delivers.of_write {before after : List (Exchange Command)} {told : Reply}
    (delivers : Delivers w goesOn d) (wrote : w.writes = true)
    (quiet : ∀ told after o, goesOn told after o → OnlyReads after)
    (ran : Runs d (before ++ ⟨w, told⟩ :: after) o) : Concludes w goesOn told after o := by
  rcases delivers _ _ ran with ⟨only, -⟩ | ⟨before', told', after', whole, low, concludes⟩
  · have reads := only ⟨w, told⟩ (by simp)
    rw [wrote] at reads
    cases reads
  · have high : OnlyReads after' := by
      cases concludes with
      | silent => exact onlyReads_nil
      | none => exact onlyReads_nil
      | some _ _ on => exact quiet _ _ _ on
    obtain ⟨rfl, same⟩ := low.first_write high whole.symm wrote
    cases same
    obtain rfl : after = after' := by simpa using whole
    exact concludes

end Acknowledgements

/-- An operation that writes a row and results in one is acknowledged when the write was
reported and the row was read back. -/
structure Acknowledged {Item Line : Type} (w : Command) (c : Collection Item Line)
    (key : Reply → Cell) (h : List (Exchange Command)) (o : Except Failure Item) : Prop where
  /-- With a result, the write was reported to have written a row, the next and last statement
  asked for the row, and the result is what the row that came back says. -/
  result : ∀ a, o = .ok a → ∃ before v n row,
    h = before ++ [⟨w, .returned v⟩, ⟨.get c.table (key (.returned v)), .returned row⟩] ∧
      OnlyReads before ∧ reported w (.returned v) = some n ∧ 1 ≤ n ∧ readRow c.item row = .ok a
  /-- With no row written there is no more statement, and the storage is at fault. -/
  none : ∀ before told after n, h = before ++ ⟨w, told⟩ :: after → reported w told = some n →
    n < 1 → after = [] ∧ ∃ e, o = .error (.refused e) ∧ e.refusal = .storage
  /-- With a row written, it is asked for and nothing else is; one that does not come back is
  a fault of the storage, and one that does is the outcome. -/
  some : ∀ before told after n, h = before ++ ⟨w, told⟩ :: after → reported w told = some n →
    1 ≤ n → ∃ reply, after = [⟨.get c.table (key told), reply⟩] ∧
      (reply = .returned .null →
        ∃ e, o = .error (.refused e) ∧ e.refusal = .storage ∧ e.causes = [.noRows]) ∧
      ∀ row, reply = .returned row → row ≠ .null → o = readRow c.item row

/-- An operation that writes and results in nothing is acknowledged when the write was
reported. -/
structure Confirmed (w : Command) (h : List (Exchange Command)) (o : Except Failure Unit) :
    Prop where
  result : o = .ok () → ∃ before v n, h = before ++ [⟨w, .returned v⟩] ∧ OnlyReads before ∧
    reported w (.returned v) = some n ∧ 1 ≤ n
  none : ∀ before told after n, h = before ++ ⟨w, told⟩ :: after → reported w told = some n →
    n < 1 → after = [] ∧ ∃ e, o = .error (.refused e) ∧ e.refusal = .storage

section Acknowledgements

variable {Item Line : Type} {w : Command} {h : List (Exchange Command)}

theorem Delivers.acknowledged {c : Collection Item Line} {written : String} {key : Reply → Cell}
    {d : Dialogue Command Item} {o : Except Failure Item}
    (delivers : Delivers w (ReadsRow c written key) d) (wrote : w.writes = true)
    (ran : Runs d h o) : Acknowledged w c key h o := by
  have quiet : ∀ told after o, ReadsRow c written key told after o → OnlyReads after := by
    rintro told after o ⟨reply, rfl, -⟩
    simp [OnlyReads, Command.writes]
  refine ⟨?_, ?_, ?_⟩
  · rintro a rfl
    obtain ⟨before, v, n, after, rfl, low, rows, least, reply, rfl, made⟩ := delivers.of_result ran
    obtain ⟨row, rfl, read⟩ := itemOf_eq_ok (of_orNothing_eq_ok made.symm)
    exact ⟨before, v, n, row, rfl, low, rows, least, read⟩
  · rintro before told after n rfl few below
    cases delivers.of_write wrote quiet ran with
    | silent unreported => cases unreported.symm.trans few
    | none _ _ storage => exact ⟨rfl, _, rfl, storage⟩
    | some rows least _ =>
        cases rows.symm.trans few
        omega
  · rintro before told after n rfl rows least
    cases delivers.of_write wrote quiet ran with
    | silent unreported => cases unreported.symm.trans rows
    | none few below _ =>
        cases few.symm.trans rows
        omega
    | some _ _ on =>
        obtain ⟨reply, rfl, rfl⟩ := on
        refine ⟨reply, rfl, ?_, ?_⟩
        · rintro rfl
          exact ⟨_, rfl, rfl, rfl⟩
        · rintro row rfl there
          have read : itemOf c.item (.returned row) = readRow c.item row := by
            cases row with
            | null => exact absurd rfl there
            | _ => rfl
          rw [read]
          exact orNothing_of_ne (isReading_readRow c.item row).definite

theorem Delivers.confirmed {d : Dialogue Command Unit} {o : Except Failure Unit}
    (delivers : Delivers w IsDone d) (wrote : w.writes = true) (ran : Runs d h o) :
    Confirmed w h o := by
  have quiet : ∀ told after o, IsDone told after o → OnlyReads after := by
    rintro told after o ⟨rfl, -⟩
    exact onlyReads_nil
  refine ⟨?_, ?_⟩
  · rintro rfl
    obtain ⟨before, v, n, after, rfl, low, rows, least, rfl, -⟩ := delivers.of_result ran
    exact ⟨before, v, n, rfl, low, rows, least⟩
  · rintro before told after n rfl few below
    cases delivers.of_write wrote quiet ran with
    | silent unreported => cases unreported.symm.trans few
    | none _ _ storage => exact ⟨rfl, _, rfl, storage⟩
    | some rows least _ =>
        cases rows.symm.trans few
        omega

end Acknowledgements

namespace Task

/-- **What was written is acknowledged when it took effect and was read back.**  Whatever
comes back for its statements, an operation that creates or replaces a row results in an item
only if its write reported a row, or for a new type an id, and the very next and last
statement asked for the row that was written, under the id of the content, of the request, or
that came back; and the item is what is read of that row.  With no row reported nothing more
is asked and the storage is at fault, and it also is where the row does not come back.  A
deletion is done only if it reported a row. -/
theorem writes_are_acknowledged_when_read_back (r : Registry) (caller : Caller)
    (silence : Command → Reply) (replies : List Reply) :
    (∀ content, Acknowledged (.insertThing caller.userId content) things
      (fun _ => .uuid content.id) ((createThing content).exchanged r caller silence replies)
      ((createThing content).ended r caller silence replies)) ∧
    (∀ id content, Acknowledged (.updateThing (.uuid id) caller.userId content) things
      (fun _ => .uuid id) ((updateThing id content).exchanged r caller silence replies)
      ((updateThing id content).ended r caller silence replies)) ∧
    (∀ content, Acknowledged (.insertType caller.userId content) types Reply.value
      ((createType content).exchanged r caller silence replies)
      ((createType content).ended r caller silence replies)) ∧
    (∀ id content, Acknowledged (.updateType (.int id) caller.userId content) types
      (fun _ => .int id) ((updateType id content).exchanged r caller silence replies)
      ((updateType id content).ended r caller silence replies)) ∧
    (∀ id, Confirmed (.softDelete .things (.uuid id) caller.userId)
      ((deleteThing id).exchanged r caller silence replies)
      ((deleteThing id).ended r caller silence replies)) ∧
    ∀ id, Confirmed (.softDelete .types (.int id) caller.userId)
      ((deleteType id).exchanged r caller silence replies)
      ((deleteType id).ended r caller silence replies) := by
  have ran (t : Task) := runs_exchanges silence (t.perform r caller) replies
  refine ⟨fun content => ?_, fun id content => ?_, fun content => ?_, fun id content => ?_,
    fun id => ?_, fun id => ?_⟩
  · exact (createThing_delivers r caller content).acknowledged rfl (ran (.createThing content))
  · exact (updateThing_delivers r caller id content).acknowledged rfl (ran (.updateThing id content))
  · exact (createType_delivers r caller content).acknowledged rfl (ran (.createType content))
  · exact (updateType_delivers r caller id content).acknowledged rfl (ran (.updateType id content))
  · exact (deleteThing_delivers r caller id).confirmed rfl (ran (.deleteThing id))
  · exact (deleteType_delivers r caller id).confirmed rfl (ran (.deleteType id))

end Task

end Registry

end GeoRegistry
