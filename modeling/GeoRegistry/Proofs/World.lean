/-
# Proofs.World -- tasks that are done at the same time

Callers have tasks done at the same time, and the database executes their statements one
by one in any order; nothing keeps another task's statement from falling between a check
and the write it guards.  A world is the table of things with the tasks under way, and an
execution is what happens to it, step by step.

A task that is told what the table says gets to where it is told to
(`Execution.follow`): so a thing whose id is free can be created, and its owner can
delete it.
-/
import GeoRegistry.Proofs.Store.Things
import GeoRegistry.Proofs.WriteGate

namespace GeoRegistry.Registry

set_option autoImplicit false

open Dialogue Store

/-! ## Work at the same time -/

/-- A task under way: whose it is, what was exchanged so far, and what is left of it. -/
structure Job where
  caller : Caller
  task : Task
  past : List (Exchange Command)
  rest : Dialogue Command task.Result

/-- The table of things, and all tasks that were ever begun. -/
structure World where
  things : Things
  jobs : List Job

namespace World

/-- No things yet, and nothing begun. -/
def initial : World :=
  ⟨.empty, []⟩

end World

/-- A statement that was executed: who sent it, and what it did to the table. -/
structure Event where
  caller : Caller
  command : Command
  effect : Effect
  before : Things
  after : Things

variable (r : Registry) (i : Sql.Interpretation)

/-- A task is begun, one of the tasks logs something, or the database executes the
statement that one of them is waiting for. -/
inductive Step : World → Option Event → World → Prop where
  | begin {w : World} (caller : Caller) (task : Task) :
      Step w none { w with jobs := w.jobs ++ [⟨caller, task, [], task.perform r caller⟩] }
  | note {t : Things} {left right : List Job} {caller : Caller} {task : Task}
      {past : List (Exchange Command)} {entry : Log.Entry} {next : Dialogue Command task.Result} :
      Step ⟨t, left ++ ⟨caller, task, past, .note entry next⟩ :: right⟩ none
        ⟨t, left ++ ⟨caller, task, past, next⟩ :: right⟩
  | ask {t t' : Things} {left right : List Job} {caller : Caller} {task : Task}
      {past : List (Exchange Command)} {q : Command} {next : Reply → Dialogue Command task.Result}
      {reply : Reply} {effect : Effect} (done : Executes i r.store t q reply effect t') :
      Step ⟨t, left ++ ⟨caller, task, past, .ask q next⟩ :: right⟩ (some ⟨caller, q, effect, t, t'⟩)
        ⟨t', left ++ ⟨caller, task, past ++ [⟨q, reply⟩], next reply⟩ :: right⟩

/-- Steps one after another, with the statements that were executed. -/
inductive Execution : World → List Event → World → Prop where
  | refl (w : World) : Execution w [] w
  | step {w w' w'' : World} {history : List Event} {e : Option Event}
      (before : Execution w history w') (next : Step r i w' e w'') :
      Execution w (history ++ e.toList) w''

namespace Execution

variable {r i} {w w' w'' : World} {history later : List Event}

theorem trans (first : Execution r i w history w') (second : Execution r i w' later w'') :
    Execution r i w (history ++ later) w'' := by
  induction second with
  | refl => simpa using first
  | step _ next ih =>
      rw [← List.append_assoc]
      exact ih.step next

end Execution

/-! ## What can happen -/

section Progress

variable {r i}

/-- The database answers questions one after another. -/
inductive Told (i : Sql.Interpretation) (s : Store) :
    Things → List (Exchange Command) → Things → Prop where
  | nil (t : Things) : Told i s t [] t
  | cons {t t' t'' : Things} {q : Command} {reply : Reply} {effect : Effect}
      {h : List (Exchange Command)} (done : Executes i s t q reply effect t')
      (rest : Told i s t' h t'') : Told i s t (⟨q, reply⟩ :: h) t''

/-- **A task gets where it is told to** while the others wait. -/
theorem Execution.follow (left right : List Job) (caller : Caller) {task : Task}
    {rest rest' : Dialogue Command task.Result} {h : List (Exchange Command)}
    (reached : Reaches rest h rest') {t t' : Things} (told : Told i r.store t h t')
    (past : List (Exchange Command)) :
    ∃ history, Execution r i ⟨t, left ++ ⟨caller, task, past, rest⟩ :: right⟩ history
      ⟨t', left ++ ⟨caller, task, past ++ h, rest'⟩ :: right⟩ := by
  -- along the way there: a note is a step, and so is a question with the answer it is told
  induction reached generalizing t past with
  | refl d =>
      cases told
      exact ⟨[], by simpa using Execution.refl _⟩
  | note _ ih =>
      obtain ⟨history, ran⟩ := ih told past
      exact ⟨_, ((Execution.refl _).step .note).trans ran⟩
  | @ask q next rest' reply h _ ih =>
      cases told with
      | cons done told =>
          obtain ⟨history, ran⟩ := ih told (past ++ [⟨q, reply⟩])
          rw [List.append_assoc, List.singleton_append] at ran
          exact ⟨_, ((Execution.refl _).step (.ask done)).trans ran⟩

/-- A task is begun beside the others, is told what it asks until it writes, and its write is
executed. -/
theorem Execution.write (jobs : List Job) (caller : Caller) (task : Task) {t t' : Things}
    {w : Command} {reply : Reply} {effect : Effect} {past : List (Exchange Command)}
    (writes : task.write? caller = some w) (may : task.Permitted r caller)
    (all : AllPassed (task.checks caller) past) (told : Told i r.store t past t)
    (done : Executes i r.store t w reply effect t') :
    ∃ history j, Execution r i ⟨t, jobs⟩ history ⟨t', jobs ++ [j]⟩ ∧
      ∃ e ∈ history, e.effect = effect := by
  obtain ⟨next, reached⟩ := (Task.perform_guarded r caller writes).opens may past all
  obtain ⟨history, ran⟩ := Execution.follow jobs [] caller reached told []
  have begun := (Execution.refl (r := r) (i := i) ⟨t, jobs⟩).step (.begin caller task)
  refine ⟨_, _, (begun.trans ran).step (.ask done), ⟨caller, w, effect, t, t'⟩, ?_, rfl⟩
  simp

/-- **Anyone may create a thing** with a name that passes, under an id that is free. -/
theorem Execution.create {t : Things} (jobs : List Job) (caller : Caller)
    {content : Thing.Content} (named : r.Accepts content.name)
    (free : t.rows content.id = none) :
    ∃ history t' jobs', Execution r i ⟨t, jobs⟩ history ⟨t', jobs'⟩ ∧
      (∃ e ∈ history, e.effect = .inserted content.id) ∧
      ∃ row, t'.rows content.id = some row ∧ row "_created_by" = .int caller.userId ∧
        row "_deleted" = .bool false := by
  obtain ⟨t', done⟩ := Executes.insert (i := i) (s := r.store) caller.userId content free
  have told : Told i r.store t
      [⟨.typeExists content.typeId, .returned (.int 1)⟩,
       ⟨.exist .things (.uuid content.id), .returned (.int 0)⟩] t :=
    .cons (.elsewhere rfl) (.cons (Executes.count_none free) (.nil t))
  have all : AllPassed ((Task.createThing content).checks caller)
      [⟨.typeExists content.typeId, .returned (.int 1)⟩,
       ⟨.exist .things (.uuid content.id), .returned (.int 0)⟩] :=
    .cons ⟨rfl, _, 1, rfl, rfl, by simp⟩ (.cons ⟨rfl, _, 0, rfl, rfl, by simp⟩ .nil)
  obtain ⟨history, j, ran, fresh⟩ :=
    Execution.write jobs caller (.createThing content) rfl named all told done
  obtain ⟨-, user, content', row, same, -, there, owner, live⟩ := done.of_inserted rfl
  cases same
  exact ⟨history, t', jobs ++ [j], ran, fresh, row, there, owner, live⟩

/-- A thing is deleted by who created it, beside the tasks that are under way. -/
theorem Execution.bury {t : Things} (jobs : List Job) (caller : Caller) {id : Uuid}
    {row : Sql.Row} (there : t.rows id = some row)
    (owner : row "_created_by" = .int caller.userId) (live : row "_deleted" = .bool false) :
    ∃ history t' j, Execution r i ⟨t, jobs⟩ history ⟨t', jobs ++ [j]⟩ ∧
      (∃ e ∈ history, e.effect = .changed id) ∧
      ∃ reply, Executes i r.store t (.softDelete .things (.uuid id) caller.userId) reply
        (.changed id) t' := by
  obtain ⟨t', done⟩ := Executes.delete (i := i) (s := r.store) there live caller.userId
  obtain ⟨counted, owned⟩ := Executes.count_there (i := i) (s := r.store) there live
  have told : Told i r.store t
      [⟨.exist .things (.uuid id), .returned (.int 1)⟩,
       ⟨.isOwner .things (.uuid id) caller.userId, .returned (.int 1)⟩] t :=
    .cons counted (.cons (owned caller.userId owner) (.nil t))
  have all : AllPassed ((Task.deleteThing id).checks caller)
      [⟨.exist .things (.uuid id), .returned (.int 1)⟩,
       ⟨.isOwner .things (.uuid id) caller.userId, .returned (.int 1)⟩] :=
    .cons ⟨rfl, _, 1, rfl, rfl, by simp⟩ (.cons ⟨rfl, _, 1, rfl, rfl, by simp⟩ .nil)
  obtain ⟨history, j, ran, changed⟩ :=
    Execution.write jobs caller (.deleteThing id) rfl trivial all told done
  exact ⟨history, t', j, ran, changed, _, done⟩

/-- **Who created a thing may delete it.** -/
theorem Execution.delete {t : Things} (jobs : List Job) (caller : Caller) {id : Uuid}
    {row : Sql.Row} (there : t.rows id = some row)
    (owner : row "_created_by" = .int caller.userId) (live : row "_deleted" = .bool false) :
    ∃ history t' jobs', Execution r i ⟨t, jobs⟩ history ⟨t', jobs'⟩ ∧
      ∃ e ∈ history, e.effect = .changed id := by
  obtain ⟨history, t', j, ran, changed, -⟩ :=
    Execution.bury (r := r) (i := i) jobs caller there owner live
  exact ⟨history, t', jobs ++ [j], ran, changed⟩

end Progress

end GeoRegistry.Registry
