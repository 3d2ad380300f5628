/-
# Proofs.Forbidden -- who is told not to be the owner

That a thing is there and who owns it are asked in two statements, and the second also
finds nothing where the thing has been deleted since the first.  So a caller who is told
not to be the owner did not create the thing, or deleted it between these two statements
(`forbidden_unless_deleted_between`).  Wherever else a deletion falls, the first statement
that does not find the thing ends the task, and it is reported as missing or as a failure
of the storage.

Both are laws of the dialogues of the two tasks (`Stops`, `NeverForbids`), carried over to
the history of an execution.
-/
import GeoRegistry.Proofs.FailStop
import GeoRegistry.Proofs.History

namespace GeoRegistry.Registry

set_option autoImplicit false

open Dialogue Store

variable {α β : Type}

/-! ## Outcomes that forbid nothing -/

/-- An outcome does not say that the caller is not the owner. -/
def Spares (o : Except Failure α) : Prop :=
  ∀ e, o = .error (.refused e) → e.refusal ≠ .notOwner

theorem spares_ok (a : α) : Spares (.ok a) := by
  simp [Spares]

theorem spares_refused {e : DomainError} (other : e.refusal ≠ .notOwner) :
    Spares (.error (.refused e) : Except Failure α) := by
  rintro e' ⟨⟩
  exact other

theorem Spares.bind {o : Except Failure α} {f : α → Except Failure β} (first : Spares o)
    (rest : ∀ a, Spares (f a)) : Spares (o.bind f) := by
  cases o with
  | error e =>
      rintro e' ⟨⟩
      exact first e' rfl
  | ok a => exact rest a

theorem spares_orNothing {o instead : Except Failure α} (first : Spares o)
    (rest : Spares instead) : Spares (orNothing instead o) := by
  unfold orNothing
  split
  · exact rest
  · exact first

/-- Who cannot read a value forbids nothing. -/
theorem spares_of_isReading {o : Except Failure α} (reading : IsReading o) : Spares o :=
  fun _ refused => (reading _ refused).elim

theorem spares_settled (reply : Reply) : Spares (settled reply) := by
  cases reply with
  | returned v => exact spares_ok v
  | failed f =>
      intro e made
      rw [settled_failed, consequence] at made
      cases at_fault : verdict f.fault <;> rw [at_fault] at made <;> cases made <;>
        simp [DomainError.because, DomainError.plain]

theorem spares_answered (reply : Reply) : Spares (answered reply) :=
  ((spares_settled reply).bind fun v => spares_of_isReading (isReading_count v)).bind
    fun _ => spares_ok _

theorem spares_demanded {complaint : DomainError} (other : complaint.refusal ≠ .notOwner)
    (reply : Reply) : Spares (demanded complaint reply) := by
  refine (spares_answered reply).bind fun there => ?_
  cases there with
  | true => exact spares_ok _
  | false => exact spares_refused other

theorem spares_changeOf (what complaint : String) (reply : Reply) :
    Spares (changeOf what complaint reply) := by
  refine ((spares_settled reply).bind fun v => spares_of_isReading (isReading_affected v)).bind
    fun n => ?_
  by_cases few : n < 1
  · simp only [few, if_true]
    exact spares_refused (by simp [DomainError.ofDetail])
  · simp only [few, if_false]
    exact spares_ok _

theorem spares_itemOf (shape : Shape α) (reply : Reply) : Spares (itemOf shape reply) := by
  refine (spares_settled reply).bind fun row => ?_
  cases row with
  | null => simp [Spares]
  | _ => exact spares_of_isReading (isReading_readRow shape _)

/-! ## Dialogues that forbid nothing -/

/-- Whatever a dialogue is told, it does not say that the caller is not the owner. -/
def NeverForbids (d : Dialogue Command α) : Prop :=
  ∀ h o, Runs d h o → Spares o

theorem neverForbids_of_idle {d : Dialogue Command α} {o : Except Failure α} (idle : Idle d o)
    (spares : Spares o) : NeverForbids d := by
  intro h o' ran
  obtain ⟨-, rfl⟩ := (idle _ _).1 ran
  exact spares

theorem neverForbids_of_asks {d : Dialogue Command α} {q : Command}
    {f : Reply → Except Failure α} (asks : AsksOnce d q f) (spares : ∀ reply, Spares (f reply)) :
    NeverForbids d := by
  intro h o ran
  obtain ⟨reply, -, rfl⟩ := (asks _ _).1 ran
  exact spares reply

theorem NeverForbids.bind {d : Dialogue Command α} {k : α → Dialogue Command β}
    (first : NeverForbids d) (rest : ∀ a, NeverForbids (k a)) : NeverForbids (d >>= k) := by
  intro h o ran
  rcases runs_bind_iff.1 ran with ⟨e, rfl, ran₁⟩ | ⟨a, h₁, h₂, -, -, ran₂⟩
  · rintro e' ⟨⟩
    exact first _ _ ran₁ e' rfl
  · exact rest a _ _ ran₂

/-! ## Where a thing is not found -/

/-- How a task ends whose statement does not find its thing. -/
def unfound : Command → Refusal
  | .exist .. => .notFound
  | .isOwner .. => .notOwner
  | _ => .storage

/-- Of the thing that the question of an exchange is about, nothing was found. -/
def FoundNothing (x : Exchange Command) : Prop :=
  ∃ cell use c, x.question.about? = some cell ∧ x.question.condition? = some (use, c) ∧
    x.reply = .returned use.nothing

/-- A dialogue ends where a statement does not find its thing, and says so. -/
def Stops (d : Dialogue Command α) : Prop :=
  ∀ h o, Runs d h o → ∀ x ∈ h, FoundNothing x →
    ∃ e, o = .error (.refused e) ∧ e.refusal = unfound x.question

theorem stops_of_idle {d : Dialogue Command α} {o : Except Failure α} (idle : Idle d o) :
    Stops d := by
  intro h o' ran x member
  obtain ⟨rfl, -⟩ := (idle _ _).1 ran
  cases member

theorem stops_of_asks {d : Dialogue Command α} {q : Command} {f : Reply → Except Failure α}
    (asks : AsksOnce d q f)
    (told : ∀ reply, FoundNothing ⟨q, reply⟩ →
      ∃ e, f reply = .error (.refused e) ∧ e.refusal = unfound q) : Stops d := by
  intro h o ran x member nothing
  obtain ⟨reply, rfl, rfl⟩ := (asks _ _).1 ran
  obtain rfl := List.mem_singleton.1 member
  exact told reply nothing

theorem Stops.bind {d : Dialogue Command α} {k : α → Dialogue Command β} (first : Stops d)
    (rest : ∀ a, Stops (k a)) : Stops (d >>= k) := by
  intro h o ran x member nothing
  rcases runs_bind_iff.1 ran with ⟨e, rfl, ran₁⟩ | ⟨a, h₁, h₂, rfl, ran₁, ran₂⟩
  · obtain ⟨e', same, told⟩ := first _ _ ran₁ x member nothing
    cases same
    exact ⟨e', rfl, told⟩
  · rcases List.mem_append.1 member with early | late
    · -- the first part had a result, so it did not stop
      obtain ⟨e', same, -⟩ := first _ _ ran₁ x early nothing
      cases same
    · exact rest a _ _ ran₂ x late nothing

section Rules

variable (r : Registry) (s : Store) (caller : Caller) (id : Uuid)

theorem row_stops : Stops (r.requireRow things (.uuid id)) := by
  refine stops_of_asks (requireRow_asks r things (.uuid id)) ?_
  rintro reply ⟨cell, use, c, -, asks, rfl⟩
  cases asks
  exact ⟨_, rfl, rfl⟩

theorem owner_stops (activity place : String) :
    Stops (r.requireOwner activity place id caller) := by
  refine stops_of_asks (requireOwner_asks r activity place id caller) ?_
  rintro reply ⟨cell, use, c, -, asks, rfl⟩
  cases asks
  exact ⟨_, rfl, rfl⟩

theorem change_stops (complaint : String) {q : Command} {c : Sql.Clause}
    (asks : q.condition? = some (.change, c)) (ends : unfound q = .storage) :
    Stops (things.change s complaint (.uuid id) q) := by
  refine stops_of_asks (change_asks things s complaint (.uuid id) q) ?_
  rintro reply ⟨cell, use, c', -, asks', rfl⟩
  obtain ⟨rfl, -⟩ : Command.Use.change = use ∧ c = c' := by simpa [asks] using asks'
  have none_ : affected Command.Use.change.nothing = .ok 0 := rfl
  have made : changeOf things.table.noun complaint (.returned Command.Use.change.nothing) =
      .error (unchanged things.table.noun complaint) := by
    simp [changeOf, changed, none_, Except.bind]
  exact ⟨_, made, ends.symm⟩

theorem readBack_stops (written : String) :
    Stops (things.readBack s written (.uuid id)) := by
  refine stops_of_asks (readBack_asks things s written (.uuid id)) ?_
  rintro reply ⟨cell, use, c, -, asks, rfl⟩
  cases asks
  exact ⟨_, rfl, rfl⟩

theorem type_stops (typeId : Int) : Stops (r.requireType typeId) := by
  refine stops_of_asks (requireType_asks r typeId) ?_
  rintro reply ⟨cell, use, c, about, -⟩
  cases about

end Rules

/-! ## The tasks that change a thing -/

/-- The task changes the thing of the id, or deletes it. -/
def Task.Changes (id : Uuid) : Task → Prop
  | .updateThing id' _ | .deleteThing id' => id' = id
  | _ => False

section Tasks

variable (r : Registry) (caller : Caller) {id : Uuid}

/-- **The tasks that change a thing stop where it is not found.** -/
theorem perform_stops {t : Task} (changes : t.Changes id) : Stops (t.perform r caller) := by
  cases t with
  | updateThing id' content =>
      refine (row_stops r id').bind fun _ => ?_
      refine (owner_stops r caller id' _ _).bind fun _ => ?_
      refine (stops_of_idle (requireName_idle r content.name)).bind fun _ => ?_
      refine (type_stops r content.typeId).bind fun _ => ?_
      refine (stops_of_idle ((idle_finish _).note _)).bind fun _ => ?_
      refine (change_stops r.store id' _ rfl rfl).bind fun _ => ?_
      exact readBack_stops r.store id' _
  | deleteThing id' =>
      refine (row_stops r id').bind fun _ => ?_
      refine (owner_stops r caller id' _ _).bind fun _ => ?_
      refine (change_stops r.store id' _ rfl rfl).bind fun _ => ?_
      exact stops_of_idle ((idle_finish _).note _)
  | _ => cases changes

/-- What was exchanged are the two questions about a thing and its owner: the thing was
counted, but not as the caller's. -/
def CountedNotOwned (caller : Caller) (id : Uuid) (h : List (Exchange Command)) : Prop :=
  ∃ v v' there owned,
    h = [⟨.exist .things (.uuid id), .returned v⟩,
      ⟨.isOwner .things (.uuid id) caller.userId, .returned v'⟩] ∧
    v.count = .ok there ∧ 0 < there ∧ v'.count = .ok owned ∧ ¬ 0 < owned

/-- If nothing else forbids, it is said after both questions. -/
theorem forbidden_by_count {activity place : String} {k : Unit → Dialogue Command α}
    (rest : NeverForbids (k ())) {h : List (Exchange Command)} {e : DomainError}
    (ran : Runs (r.requireRow things (.uuid id) >>= fun _ =>
      r.requireOwner activity place id caller >>= k) h (.error (.refused e)))
    (forbids : e.refusal = .notOwner) :
    CountedNotOwned caller id h := by
  have row := requireRow_asks r things (.uuid id)
  have owner := requireOwner_asks r activity place id caller
  rcases runs_bind_iff.1 ran with ⟨e', same, ran₁⟩ | ⟨⟨⟩, h₁, h₂, rfl, ran₁, ran₂⟩
  · cases same
    obtain ⟨reply, -, same⟩ := (row _ _).1 ran₁
    exact absurd forbids (spares_demanded (by simp [missing, DomainError.ofDetail]) reply e same.symm)
  · obtain ⟨reply, rfl, passed⟩ := (row _ _).1 ran₁
    obtain ⟨v, there, rfl, counted, some_⟩ := demanded_eq_ok_iff.1 passed.symm
    rcases runs_bind_iff.1 ran₂ with ⟨e', same, ran₃⟩ | ⟨⟨⟩, h₃, h₄, -, -, ran₄⟩
    · cases same
      obtain ⟨reply, rfl, same⟩ := (owner _ _).1 ran₃
      -- the count was read: a reply that cannot be read forbids nothing
      cases read : answered reply with
      | error e' =>
          simp only [demanded, read, Except.bind] at same
          cases same
          exact absurd forbids (spares_answered reply e read)
      | ok owns =>
          cases owns with
          | true => simp [demanded, read, Except.bind] at same
          | false =>
              obtain ⟨v', owned, rfl, counted', none_⟩ := answered_eq_ok_iff.1 read
              exact ⟨v, v', there, owned, rfl, counted, some_, counted', by simpa using none_⟩
    · exact absurd forbids (rest _ _ ran₄ e rfl)

/-- **A task that changes a thing says that the caller is not the owner** only after both
questions, and only if the thing was counted but not as the caller's. -/
theorem perform_forbidden {t : Task} (changes : t.Changes id) {h : List (Exchange Command)}
    {e : DomainError} (ran : Runs (t.perform r caller) h (.error (.refused e)))
    (forbids : e.refusal = .notOwner) :
    CountedNotOwned caller id h := by
  cases t with
  | updateThing id' content =>
      obtain rfl : id' = id := changes
      refine forbidden_by_count r caller ?_ ran forbids
      have named : Spares ((NameRule.check "name" r.leastName content.name).mapError
          Failure.refusal) := by
        simp only [NameRule.check]
        split
        · exact spares_refused (by simp [DomainError.plain])
        · split
          · exact spares_refused (by simp [DomainError.plain])
          · exact spares_ok _
      refine (neverForbids_of_idle (requireName_idle r content.name) named).bind fun _ => ?_
      refine (neverForbids_of_asks (requireType_asks r content.typeId)
        (spares_demanded (by simp [DomainError.ofDetail]))).bind fun _ => ?_
      refine (neverForbids_of_idle ((idle_finish _).note _) (spares_ok _)).bind fun _ => ?_
      refine (neverForbids_of_asks (change_asks things r.store _ _ _)
        (spares_changeOf _ _)).bind fun _ => ?_
      refine neverForbids_of_asks (readBack_asks things r.store _ _) fun reply => ?_
      refine spares_orNothing (spares_itemOf _ reply) (spares_refused ?_)
      simp [DomainError.because, DomainError.ofDetail]
  | deleteThing id' =>
      obtain rfl : id' = id := changes
      refine forbidden_by_count r caller ?_ ran forbids
      refine (neverForbids_of_asks (delete_asks things r.store _ _) (spares_changeOf _ _)).bind
        fun _ => ?_
      exact neverForbids_of_idle ((idle_finish _).note _) (spares_ok _)
  | _ => cases changes

/-- A deletion that counts its thing and then does not count it as the caller's. -/
theorem deleteThing_counted_not_owned (id : Uuid) :
    ∃ rest : Dialogue Command (Task.deleteThing id).Result,
      Reaches ((Task.deleteThing id).perform r caller)
        [⟨.exist .things (.uuid id), .returned (.int 1)⟩] rest ∧
      Runs rest [⟨.isOwner .things (.uuid id) caller.userId, .returned (.int 0)⟩]
        (.error (.refused (.plain .notOwner))) := by
  have passed : Runs (r.requireRow things (.uuid id))
      [⟨.exist .things (.uuid id), .returned (.int 1)⟩] (.ok ()) :=
    (requireRow_asks r things (.uuid id) _ _).2 ⟨_, rfl, rfl⟩
  refine ⟨_, passed.reaches_bind _, runs_bind_iff.2 (.inl ⟨_, rfl, ?_⟩)⟩
  exact (requireOwner_asks r _ _ id caller _ _).2 ⟨_, rfl, rfl⟩

end Tasks

/-! ## Executions -/

section Executions

variable {r : Registry} {i : Sql.Interpretation} {w : World} {history : List Event} {id : Uuid}

/-- The thing of an exist statement that counted it is live, and still is after it. -/
theorem Event.Answers.live {caller : Caller} {e : Event} {v : Cell} {n : Int}
    (answers : e.Answers r i caller ⟨.exist .things (.uuid id), .returned v⟩)
    (flagged : e.before.Flagged) (counted : v.count = .ok n) (some_ : 0 < n) :
    e.before.Live id ∧ e.after.Live id := by
  have done := answers.done
  rw [answers.command] at done
  have live := done.live_of_exist flagged counted some_
  refine ⟨live, ?_⟩
  apply Classical.byContradiction
  intro gone
  obtain ⟨-, cell, user, other⟩ := done.of_buried live gone
  cases other

/-- Who ever changed a thing is its creator, also for who looks at the thing later. -/
theorem Execution.creator_of_changed (ran : Execution r i .initial history w) {e : Event}
    (member : e ∈ history) (effect : e.effect = .changed id) {row : Sql.Row} {creator : Int}
    (stays : w.things.rows id = some row) (owner : row "_created_by" = .int creator) :
    e.caller.userId = creator := by
  obtain ⟨old, was, sender⟩ := (ran.lawful World.sound_initial e member).changes id effect
  obtain ⟨before, after, rfl⟩ := List.append_of_mem member
  obtain ⟨-, executed, onward⟩ := ran.chain.around
  -- a row keeps its creator from the change on
  obtain ⟨row', stays', same⟩ := (Chain.cons executed onward).persist id old was
  obtain rfl : row = row' := Option.some.inj (stays.symm.trans stays')
  rw [same.owner, sender] at owner
  exact Cell.int.inj owner

/-- **The race can be lost.**  Who owns a thing has two deletions of it under way: the one
counts the thing, the other one is done from its beginning to its end, and the first one asks
for the owner only then. -/
theorem Execution.race {t : Things} (flagged : t.Flagged) (jobs : List Job) (caller : Caller)
    {row : Sql.Row} (there : t.rows id = some row)
    (owner : row "_created_by" = .int caller.userId) (live : row "_deleted" = .bool false) :
    ∃ history w past, Execution r i ⟨t, jobs⟩ history w ∧
      ⟨caller, .deleteThing id, past, .finish (.error (.refused (.plain .notOwner)))⟩ ∈ w.jobs := by
  obtain ⟨rest, counts, asks⟩ := deleteThing_counted_not_owned r caller id
  have begun := (Execution.refl (r := r) (i := i) ⟨t, jobs⟩).step (.begin caller (.deleteThing id))
  have counted := (Executes.count_there (i := i) (s := r.store) there live).1
  obtain ⟨first, ran⟩ := Execution.follow jobs [] caller counts
    (.cons counted (.nil t)) []
  obtain ⟨between, t', j, done, -, reply, deletes⟩ := Execution.bury (r := r) (i := i)
    (jobs ++ [⟨caller, .deleteThing id, [⟨.exist .things (.uuid id), .returned (.int 1)⟩], rest⟩])
    caller there owner live
  rw [List.append_assoc] at done
  have none_ : Executes i r.store t' (.isOwner .things (.uuid id) caller.userId)
      (.returned (.int 0)) .none t' :=
    Executes.count_gone (deletes.flagged flagged) rfl deletes.gone_of_softDelete rfl
  obtain ⟨last, refused⟩ := Execution.follow jobs [j] caller asks
    (.cons none_ (.nil t')) [⟨.exist .things (.uuid id), .returned (.int 1)⟩]
  exact ⟨_, _, _, ((begun.trans ran).trans done).trans refused,
    List.mem_append_right _ (.head _)⟩

/-- A thing that its creator deletes twice at a time, the second time just before the first
deletion asks for the owner. -/
theorem sample_race :
    ∃ history w past, Execution {} .plain .initial history w ∧
      ⟨{ userId := 7 }, .deleteThing sampleContent.id, past,
        .finish (.error (.refused (.plain .notOwner)))⟩ ∈ w.jobs ∧
      ∃ row, w.things.rows sampleContent.id = some row ∧ row "_created_by" = .int 7 := by
  have named : Registry.Accepts {} sampleContent.name := by
    rw [accepts_iff]
    decide
  obtain ⟨history, t, jobs, created, -, row, there, owner, live⟩ :=
    Execution.create (r := {}) (i := .plain) (t := .empty) [] { userId := 7 } named rfl
  have flagged : t.Flagged := created.chain.flagged Things.flagged_empty
  obtain ⟨later, w, past, raced, lost⟩ :=
    Execution.race (r := {}) (i := .plain) flagged jobs { userId := 7 } there owner live
  obtain ⟨row', stays, kept⟩ := raced.persist _ row there
  exact ⟨_, w, past, created.trans raced, lost, row', stays, kept.owner.trans owner⟩

/-- **Forbidden is said to others, or after a deletion between the two questions.**  However
the statements of all tasks fall together, what a task that changes a thing was told is in the
history, and the following holds of it.  If it ended by saying that its caller is not the
owner, the thing is there and has a creator, and if that is the caller, the task asked for the
thing while it lived and for its owner when it was gone, and between these two statements the
creator's own deletion of it was executed.  And any statement of the task that was answered
and did not find the thing alive was its last and decided how it ended: the first question by
saying that there is no such thing, the second by saying that the caller is not the owner, the
write and the reading back by a failure of the storage. -/
theorem forbidden_unless_deleted_between (ran : Execution r i .initial history w) {j : Job}
    (begun : j ∈ w.jobs) (changes : j.task.Changes id) {o : Except Failure j.task.Result}
    (ended : j.rest = .finish o) :
    ∃ events, j.Recorded r i history events ∧
      (∀ e, o = .error (.refused e) → e.refusal = .notOwner →
        ∃ row creator, w.things.rows id = some row ∧ row "_created_by" = .int creator ∧
          (creator = j.caller.userId →
            ∃ before counted between asked after,
              history = before ++ counted :: (between ++ asked :: after) ∧
              events = [counted, asked] ∧ counted.command = .exist .things (.uuid id) ∧
              asked.command = .isOwner .things (.uuid id) creator ∧
              counted.before.Live id ∧ ¬ asked.before.Live id ∧
              ∃ deletion ∈ between, deletion.effect = .changed id ∧
                deletion.caller.userId = creator ∧
                ∃ cell user, deletion.command = .softDelete .things cell user)) ∧
      ∀ e x, (e, x) ∈ events.zip j.past → e.command.about? = some (.uuid id) →
        ¬ e.before.Live id → (∃ v, x.reply = .returned v) →
          ∃ refused, o = .error (.refused refused) ∧ refused.refusal = unfound e.command := by
  obtain ⟨events, recorded⟩ := ran.recorded j begun
  have sound := ran.sound World.sound_initial
  have whole : Runs (j.task.perform r j.caller) j.past o := by
    rw [Runs, ← ended]
    exact (sound.jobs j begun).reached
  have chain : Chain r i .empty history w.things := ran.chain
  refine ⟨events, recorded, ?_, ?_⟩
  · rintro e rfl forbids
    obtain ⟨v, v', there, owned, past, counts, some_, counts', none_⟩ :=
      perform_forbidden r j.caller changes whole forbids
    obtain ⟨order, answers⟩ := recorded
    rw [past] at answers
    obtain _ | ⟨first, _ | ⟨second, ⟨⟩⟩⟩ := answers
    rename_i counted asked
    obtain ⟨before, between, after, rfl⟩ := exists_of_pair_sublist order
    -- the tables at the two questions, and everything between them
    obtain ⟨begins, executed, rest⟩ := chain.around
    obtain ⟨middle, executed', ends⟩ := rest.around
    obtain ⟨live, living⟩ := first.live (begins.flagged Things.flagged_empty) counts some_
    have ⟨held, holds, _⟩ := living
    obtain ⟨asked_, asks, -⟩ := middle.persist _ held holds
    obtain ⟨row, stays, kept⟩ := (Chain.cons executed' ends).persist _ asked_ asks
    obtain ⟨creator, owner⟩ := sound.owned _ row stays
    refine ⟨row, creator, stays, owner, ?_⟩
    rintro rfl
    have done := second.done
    rw [second.command] at done
    have gone := done.gone_of_isOwner counts' none_ asks (kept.owner.symm.trans owner)
    obtain ⟨deletion, member, -, effect, deletes⟩ := middle.buried living gone
    refine ⟨before, counted, between, asked, after, rfl, rfl, first.command, second.command, live,
      gone, deletion, member, effect, ?_, deletes⟩
    exact ran.creator_of_changed (by simp [member]) effect stays owner
  · rintro e x paired about gone ⟨v, returned⟩
    have answers := List.forall₂_zip recorded.2 paired
    have member := recorded.1.subset (List.of_mem_zip paired).1
    obtain ⟨before, after, rfl⟩ := List.append_of_mem member
    have flagged := chain.around.1.flagged Things.flagged_empty
    have done := answers.done
    rw [returned] at done
    obtain ⟨use, c, asks, rfl⟩ := done.of_gone flagged about gone
    rw [answers.command] at about asks ⊢
    exact perform_stops r j.caller changes _ _ whole x (List.of_mem_zip paired).2
      ⟨_, use, c, about, asks, returned⟩

/-- Who loses the race against their own deletion is told not to be the owner. -/
theorem creator_forbidden_after_own_deletion :
    ∃ history w, Execution {} .plain .initial history w ∧
      ∃ before counted between asked after,
        history = before ++ counted :: (between ++ asked :: after) ∧
        counted.command = .exist .things (.uuid sampleContent.id) ∧
        asked.command = .isOwner .things (.uuid sampleContent.id) 7 ∧
        ∃ deletion ∈ between, deletion.effect = .changed sampleContent.id ∧
          deletion.caller.userId = 7 := by
  obtain ⟨history, w, past, ran, lost, row, stays, owner⟩ := sample_race
  have changes : Task.Changes sampleContent.id (.deleteThing sampleContent.id) := rfl
  obtain ⟨events, -, forbids, -⟩ := forbidden_unless_deleted_between ran lost changes rfl
  obtain ⟨row', creator, stays', owner', raced⟩ := forbids _ rfl rfl
  obtain rfl : row = row' := Option.some.inj (stays.symm.trans stays')
  rw [owner] at owner'
  obtain rfl : 7 = creator := Cell.int.inj owner'
  obtain ⟨before, counted, between, asked, after, whole, -, first, second, -, -, deletion, member,
    effect, sender, -⟩ := raced rfl
  exact ⟨history, w, ran, before, counted, between, asked, after, whole, first, second, deletion,
    member, effect, sender⟩

/-- So it is not only to others that forbidden is said. -/
theorem not_only_others_are_forbidden :
    ¬ ∀ (history : List Event) (w : World) (caller : Caller) (id : Uuid)
        (past : List (Exchange Command)), Execution {} .plain .initial history w →
        ⟨caller, .deleteThing id, past, .finish (.error (.refused (.plain .notOwner)))⟩ ∈ w.jobs →
        ∃ row creator, w.things.rows id = some row ∧ row "_created_by" = .int creator ∧
          creator ≠ caller.userId := by
  intro others
  obtain ⟨history, w, past, ran, lost, row, stays, owner⟩ := sample_race
  obtain ⟨row', creator, stays', owner', other⟩ := others _ _ _ _ _ ran lost
  obtain rfl : row = row' := Option.some.inj (stays.symm.trans stays')
  rw [owner] at owner'
  exact other (Cell.int.inj owner').symm

end Executions

end GeoRegistry.Registry
