/-
# Proofs.Ownership -- who changes things when everyone works at once

What makes the checks of a task hold although other statements fall in between is that
the facts they establish never go away: a thing keeps its owner, and a deleted thing
stays as it is (`Things.Persist`).  So a task that was once told that its caller owns a
thing is right about that when it writes (`Job.Honest`).
-/
import GeoRegistry.Proofs.World

namespace GeoRegistry.Registry

set_option autoImplicit false

open Dialogue Store

/-! ## What is known of a task under way -/

variable {r : Registry} {i : Sql.Interpretation}

/-- A task has got where it is by what it was told, and where it was told that a user owns
a thing, that is so. -/
structure Job.Honest (r : Registry) (t : Things) (j : Job) : Prop where
  reached : Reaches (j.task.perform r j.caller) j.past j.rest
  owners : ∀ e ∈ j.past, ∀ id user v n, e.question = .isOwner .things (.uuid id) user →
    e.reply = .returned v → v.count = .ok n → 0 < n →
    ∃ row, t.rows id = some row ∧ row "_created_by" = .int user

structure World.Sound (r : Registry) (w : World) : Prop where
  owned : w.things.Owned
  jobs : ∀ j ∈ w.jobs, j.Honest r w.things

theorem World.sound_initial : World.initial.Sound r where
  owned := by
    intro id row there
    simp [World.initial] at there
  jobs := by simp [World.initial]

/-- What a task was told stays true. -/
theorem Job.Honest.mono {t t' : Things} {j : Job} (honest : j.Honest r t)
    (kept : t.Persist t') : j.Honest r t' where
  reached := honest.reached
  owners e member id user v n question reply counted some_ := by
    obtain ⟨row, there, owner⟩ := honest.owners e member id user v n question reply counted some_
    obtain ⟨row', there', persists⟩ := kept id row there
    exact ⟨row', there', persists.owner.trans owner⟩

/-- The answer to a question joins what is known. -/
theorem Job.Honest.answered {t t' : Things} {caller : Caller} {task : Task}
    {past : List (Exchange Command)} {q : Command} {next : Reply → Dialogue Command task.Result}
    {reply : Reply} {effect : Effect}
    (honest : Job.Honest r t ⟨caller, task, past, .ask q next⟩) (owned : t.Owned)
    (done : Executes i r.store t q reply effect t') :
    Job.Honest r t' ⟨caller, task, past ++ [⟨q, reply⟩], next reply⟩ where
  reached := honest.reached.answered reply
  owners e member id user v n question told counted some_ := by
    rcases List.mem_append.1 member with earlier | now
    · exact (honest.mono done.persist).owners e earlier id user v n question told counted some_
    · obtain rfl := List.mem_singleton.1 now
      obtain rfl : q = .isOwner .things (.uuid id) user := question
      obtain rfl : reply = .returned v := told
      obtain ⟨row, there, owner⟩ := done.of_isOwner owned counted some_
      obtain ⟨row', there', persists⟩ := done.persist id row there
      exact ⟨row', there', persists.owner.trans owner⟩

/-! ## Steps -/

/-- Steps keep what is known. -/
theorem Step.sound {w w' : World} {e : Option Event} (step : Step r i w e w')
    (sound : w.Sound r) : w'.Sound r := by
  cases step with
  | begin caller task =>
      refine ⟨sound.owned, fun j member => ?_⟩
      rcases List.mem_append.1 member with earlier | now
      · exact sound.jobs j earlier
      · obtain rfl := List.mem_singleton.1 now
        exact ⟨.refl _, by simp⟩
  | @note t left right caller task past entry next =>
      refine ⟨sound.owned, fun j member => ?_⟩
      have working := sound.jobs ⟨caller, task, past, .note entry next⟩ (by simp)
      simp only [List.mem_append, List.mem_cons] at member
      rcases member with low | rfl | high
      · exact sound.jobs j (by simp [low])
      · exact ⟨working.reached.passes_note, working.owners⟩
      · exact sound.jobs j (by simp [high])
  | @ask t t' left right caller task past q next reply effect done =>
      refine ⟨done.owned sound.owned, fun j member => ?_⟩
      have working := sound.jobs ⟨caller, task, past, .ask q next⟩ (by simp)
      simp only [List.mem_append, List.mem_cons] at member
      rcases member with low | rfl | high
      · exact (sound.jobs j (by simp [low])).mono done.persist
      · exact working.answered sound.owned done
      · exact (sound.jobs j (by simp [high])).mono done.persist

theorem Step.persist {w w' : World} {e : Option Event} (step : Step r i w e w') :
    w.things.Persist w'.things := by
  cases step with
  | ask done => exact done.persist
  | _ => exact .refl _

/-! ## What a statement did -/

/-- A statement did what its sender may do: it left all rows alone but the one it
inserted, for the sender, or the one it changed, which is the sender's. -/
structure Event.Lawful (e : Event) : Prop where
  spares : ∀ id, e.effect ≠ .inserted id → e.effect ≠ .changed id →
    e.after.rows id = e.before.rows id
  inserts : ∀ id, e.effect = .inserted id → e.before.rows id = none ∧
    ∃ row, e.after.rows id = some row ∧ row "_created_by" = .int e.caller.userId ∧
      row "_deleted" = .bool false
  changes : ∀ id, e.effect = .changed id →
    ∃ row, e.before.rows id = some row ∧ row "_created_by" = .int e.caller.userId

/-- A thing is inserted for the caller of the task that inserts it. -/
theorem Job.Honest.inserts {t : Things} {caller : Caller} {task : Task}
    {past : List (Exchange Command)} {user : Int} {content : Thing.Content}
    {next : Reply → Dialogue Command task.Result}
    (honest : Job.Honest r t ⟨caller, task, past, .ask (.insertThing user content) next⟩) :
    user = caller.userId := by
  obtain ⟨writes, -, -⟩ := Task.about_to_write r caller honest.reached rfl
  change task.write? caller = _ at writes
  cases task with
  | createThing content' =>
      cases writes
      rfl
  | _ => simp [Task.write?] at writes

/-- **A thing is changed by its owner only.**  Its task was told so before, and things
keep their owner. -/
theorem Job.Honest.changes {t t' : Things} {caller : Caller} {task : Task}
    {past : List (Exchange Command)} {q : Command} {next : Reply → Dialogue Command task.Result}
    {reply : Reply} {id : Uuid}
    (honest : Job.Honest r t ⟨caller, task, past, .ask q next⟩)
    (done : Executes i r.store t q reply (.changed id) t') :
    ∃ row, t.rows id = some row ∧ row "_created_by" = .int caller.userId := by
  obtain ⟨-, sent⟩ := done.of_changed rfl
  have wrote : q.writes = true := by
    rcases sent with ⟨cell, user, content, rfl, -⟩ | ⟨cell, user, rfl, -⟩
    · rfl
    · rfl
  obtain ⟨writes, -, all⟩ := Task.about_to_write r caller honest.reached wrote
  obtain ⟨cell, same, spelled⟩ : ∃ cell, i.equals (.uuid id) cell = .yes ∧
      ((∃ user content, q = .updateThing cell user content) ∨
        ∃ user, q = .softDelete .things cell user) := by
    rcases sent with ⟨cell, user, content, named, same⟩ | ⟨cell, user, named, same⟩
    · exact ⟨cell, same, .inl ⟨user, content, named⟩⟩
    · exact ⟨cell, same, .inr ⟨user, named⟩⟩
  obtain ⟨id', rfl, listed⟩ := Task.owner_check caller writes spelled
  obtain rfl : id = id' := i.equals_uuid_iff.1 same
  -- the answer may be old by now, but who was an owner still is
  obtain ⟨e, member, question, v, n, told, counted, above⟩ := all.exists_of_mem listed
  exact honest.owners e member id caller.userId v n question told counted (above.2 rfl)

theorem Step.lawful {w w' : World} {e : Event} (step : Step r i w (some e) w')
    (sound : w.Sound r) : e.before = w.things ∧ e.after = w'.things ∧ e.Lawful := by
  cases step with
  | @ask t t' left right caller task past q next reply effect done =>
      have working := sound.jobs ⟨caller, task, past, .ask q next⟩ (by simp)
      refine ⟨rfl, rfl, fun id fresh touched => done.rows_eq ⟨fresh, touched⟩, fun id fresh => ?_,
        fun id touched => ?_⟩
      · obtain ⟨free, user, content, row, rfl, -, there, owner, live⟩ := done.of_inserted fresh
        obtain rfl := working.inserts
        exact ⟨free, row, there, owner, live⟩
      · change effect = _ at touched
        subst touched
        exact working.changes done

/-! ## Executions -/

namespace Execution

variable {w w' w'' : World} {history later : List Event}

theorem sound (ran : Execution r i w history w') (sound : w.Sound r) : w'.Sound r := by
  induction ran with
  | refl => exact sound
  | step _ next ih => exact next.sound ih

theorem persist (ran : Execution r i w history w') : w.things.Persist w'.things := by
  induction ran with
  | refl => exact .refl _
  | step _ next ih => exact ih.trans next.persist

theorem lawful (ran : Execution r i w history w') (sound : w.Sound r) :
    ∀ e ∈ history, e.Lawful := by
  induction ran with
  | refl => simp
  | @step _ _ history e before next ih =>
      intro e' member
      rcases List.mem_append.1 member with earlier | now
      · exact ih e' earlier
      · obtain rfl : e = some e' := by simpa using now
        exact (next.lawful (before.sound sound)).2.2

/-- An id is inserted once at most, and not at all while it has no row. -/
theorem inserted_once (ran : Execution r i w history w') (sound : w.Sound r) (id : Uuid) :
    (history.filter fun e => e.effect = .inserted id).length ≤ 1 ∧
      (w'.things.rows id = none → history.filter (fun e => e.effect = .inserted id) = []) := by
  induction ran with
  | refl => simp
  | @step w' w'' history e before next ih =>
      obtain ⟨once, none_⟩ := ih
      -- rows are not lost, so an id that is free now was free before this step
      have kept : w''.things.rows id = none → w'.things.rows id = none := by
        intro gone
        cases there : w'.things.rows id with
        | none => rfl
        | some row =>
            obtain ⟨row', there', -⟩ := next.persist id row there
            rw [gone] at there'
            cases there'
      cases e with
      | none =>
          simp only [Option.toList_none, List.append_nil]
          exact ⟨once, fun gone => none_ (kept gone)⟩
      | some e =>
          obtain ⟨first, last, lawful⟩ := next.lawful (before.sound sound)
          by_cases fresh : e.effect = .inserted id
          · obtain ⟨free, row, there, -⟩ := lawful.inserts id fresh
            rw [first] at free
            rw [last] at there
            simp [none_ free, fresh, there]
          · simp only [Option.toList_some, List.filter_append, fresh, decide_false,
              List.filter_cons, List.filter_nil, Bool.false_eq_true, if_false, List.append_nil]
            exact ⟨once, fun gone => none_ (kept gone)⟩

end Execution

/-- **Things belong to who created them, whatever falls between checks and writes.**  From
the beginning on, each id is inserted at most once; from any point on, a thing keeps the
owner it has, and is left as it is once it is deleted; and every statement that was ever
executed left all things alone but one that it inserted for its sender, or one that it
changed and that its sender had created. -/
theorem things_belong_to_their_creators {w w' : World} {history later : List Event}
    (reached : Execution r i .initial history w) (goes : Execution r i w later w') :
    (∀ id, ((history ++ later).filter fun e => e.effect = .inserted id).length ≤ 1) ∧
      (∀ id row, w.things.rows id = some row →
        ∃ row', w'.things.rows id = some row' ∧ row' "_created_by" = row "_created_by" ∧
          (row "_deleted" = .bool true → row' = row)) ∧
      ∀ e ∈ history ++ later,
        (∀ id, e.after.rows id ≠ e.before.rows id →
          e.effect = .inserted id ∨ e.effect = .changed id) ∧
        (∀ id, e.effect = .inserted id → e.before.rows id = none ∧
          ∃ row, e.after.rows id = some row ∧ row "_created_by" = .int e.caller.userId ∧
            row "_deleted" = .bool false) ∧
        ∀ id, e.effect = .changed id →
          ∃ row, e.before.rows id = some row ∧ row "_created_by" = .int e.caller.userId := by
  have whole := reached.trans goes
  refine ⟨fun id => (whole.inserted_once World.sound_initial id).1, fun id row there => ?_,
    fun e member => ?_⟩
  · obtain ⟨row', there', persists⟩ := goes.persist id row there
    exact ⟨row', there', persists.owner, persists.buried⟩
  · have lawful := whole.lawful World.sound_initial e member
    refine ⟨fun id differs => ?_, lawful.inserts, lawful.changes⟩
    by_cases fresh : e.effect = .inserted id
    · exact .inl fresh
    · by_cases touched : e.effect = .changed id
      · exact .inr touched
      · exact absurd (lawful.spares id fresh touched) differs

/-- A thing to try the registry with. -/
def sampleContent : Thing.Content where
  id := ⟨List.replicate 32 (Fin.last 15), rfl⟩
  typeId := 1
  name := "Fontaine"
  description := none
  comment := none
  externalId := none
  externalRef := none
  buildAt := none
  status := none
  containedBy := none
  containedByOld := none
  inactivated := false
  inactivatedTime := none
  inactivatedBy := none
  inactivatedReason := none
  validated := false
  validatedTime := none
  validatedBy := none
  managedBy := none
  moreData := none
  posX := .finite false 0 0
  posY := .finite false 0 0

/-- A thing is created, and deleted by who created it. -/
theorem created_then_deleted :
    ∃ history later w w', Execution {} .plain .initial history w ∧
      Execution {} .plain w later w' ∧
      (∃ e ∈ history, e.effect = .inserted sampleContent.id) ∧
      (∃ e ∈ later, e.effect = .changed sampleContent.id) ∧
      ((history ++ later).filter fun e => e.effect = .inserted sampleContent.id).length ≤ 1 := by
  have named : Registry.Accepts {} sampleContent.name := by
    rw [accepts_iff]
    decide
  obtain ⟨history, t, jobs, created, fresh, row, there, owner, live⟩ :=
    Execution.create (r := {}) (i := .plain) (t := .empty) [] { userId := 7 } named rfl
  obtain ⟨later, t', jobs', deleted, gone⟩ :=
    Execution.delete (r := {}) (i := .plain) jobs { userId := 7 } there owner live
  exact ⟨history, later, _, _, created, deleted, fresh, gone,
    (things_belong_to_their_creators created deleted).1 _⟩

end GeoRegistry.Registry
