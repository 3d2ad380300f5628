/-
# Proofs.History -- the statements of an execution, in their order

The statements that were executed fit together: each finds the table as the one before it
left it (`Chain`).  And what a task was told is in the history: its exchanges are events of
the history, in the order in which they were made, each with what the database did
(`Job.Recorded`).  So what happened between two statements of a task can be looked up, and
a thing that lived at the one and is gone at the other was deleted between them
(`Chain.buried`).
-/
import GeoRegistry.Proofs.Ownership
import GeoRegistry.Proofs.Store.Liveness

namespace GeoRegistry.Registry

set_option autoImplicit false

open Dialogue Store

variable {r : Registry} {i : Sql.Interpretation}

/-- Two in their order, somewhere in a list. -/
theorem exists_of_pair_sublist {α : Type} {a b : α} {l : List α} (order : [a, b].Sublist l) :
    ∃ before between after, l = before ++ a :: (between ++ b :: after) := by
  obtain ⟨left, right, rfl, first, rest⟩ := List.cons_sublist_iff.1 order
  obtain ⟨before, low, rfl⟩ := List.append_of_mem first
  obtain ⟨high, after, rfl⟩ := List.append_of_mem (List.singleton_sublist.1 rest)
  exact ⟨before, low ++ high, after, by simp⟩

/-! ## What was executed -/

/-- The statement was executed at once, as its text says. -/
def Event.Executed (r : Registry) (i : Sql.Interpretation) (e : Event) : Prop :=
  ∃ reply, Executes i r.store e.before e.command reply e.effect e.after

/-- From one table to another, each statement finds what the one before it left. -/
inductive Chain (r : Registry) (i : Sql.Interpretation) : Things → List Event → Things → Prop where
  | nil (t : Things) : Chain r i t [] t
  | cons {e : Event} {rest : List Event} {t : Things} (executed : e.Executed r i)
      (chain : Chain r i e.after rest t) : Chain r i e.before (e :: rest) t

namespace Chain

variable {t t' t'' : Things} {h h' : List Event} {id : Uuid}

theorem append (first : Chain r i t h t') (second : Chain r i t' h' t'') :
    Chain r i t (h ++ h') t'' := by
  induction first with
  | nil t => exact second
  | cons executed _ ih => exact .cons executed (ih second)

/-- A history can be stopped at any point. -/
theorem split (chain : Chain r i t (h ++ h') t'') :
    ∃ t', Chain r i t h t' ∧ Chain r i t' h' t'' := by
  induction h generalizing t with
  | nil => exact ⟨t, .nil t, chain⟩
  | cons e rest ih =>
      cases chain with
      | cons executed chain =>
          obtain ⟨t', first, second⟩ := ih chain
          exact ⟨t', .cons executed first, second⟩

/-- What went before a statement of a history, the statement, and what came after it. -/
theorem around {e : Event} (chain : Chain r i t (h ++ e :: h') t') :
    Chain r i t h e.before ∧ e.Executed r i ∧ Chain r i e.after h' t' := by
  obtain ⟨mid, first, second⟩ := chain.split
  cases second with
  | cons executed rest => exact ⟨first, executed, rest⟩

theorem persist (chain : Chain r i t h t') : t.Persist t' := by
  induction chain with
  | nil t => exact .refl t
  | cons executed _ ih =>
      obtain ⟨reply, done⟩ := executed
      exact done.persist.trans ih

theorem flagged (chain : Chain r i t h t') (flagged : t.Flagged) : t'.Flagged := by
  induction chain with
  | nil t => exact flagged
  | cons executed _ ih =>
      obtain ⟨reply, done⟩ := executed
      exact ih (done.flagged flagged)

/-- **A thing that lived and is gone was deleted on the way.** -/
theorem buried (chain : Chain r i t h t') (live : t.Live id) (gone : ¬ t'.Live id) :
    ∃ e ∈ h, e.before.Live id ∧ e.effect = .changed id ∧
      ∃ cell user, e.command = .softDelete .things cell user := by
  induction chain with
  | nil t => exact absurd live gone
  | @cons e rest t executed _ ih =>
      by_cases lives : e.after.Live id
      · obtain ⟨e', member, buries⟩ := ih lives gone
        exact ⟨e', .tail _ member, buries⟩
      · obtain ⟨reply, done⟩ := executed
        exact ⟨e, .head _, live, done.of_buried live lives⟩

end Chain

theorem Step.chain {w w' : World} {e : Option Event} (step : Step r i w e w') :
    Chain r i w.things e.toList w'.things := by
  cases step with
  | @ask t t' left right caller task past q next reply effect done =>
      have executed : Event.Executed r i ⟨caller, q, effect, t, t'⟩ := ⟨reply, done⟩
      exact .cons executed (.nil t')
  | _ => exact .nil _

theorem Execution.chain {w w' : World} {history : List Event} (ran : Execution r i w history w') :
    Chain r i w.things history w'.things := by
  induction ran with
  | refl => exact .nil _
  | step _ next ih => exact ih.append next.chain

/-! ## What a task was told -/

/-- The statement of a caller was executed, and answered as the exchange says. -/
structure Event.Answers (r : Registry) (i : Sql.Interpretation) (caller : Caller) (e : Event)
    (x : Exchange Command) : Prop where
  caller : e.caller = caller
  command : e.command = x.question
  done : Executes i r.store e.before e.command x.reply e.effect e.after

/-- The exchanges of a task are these events of the history, in this order. -/
def Job.Recorded (r : Registry) (i : Sql.Interpretation) (history : List Event) (j : Job)
    (events : List Event) : Prop :=
  events.Sublist history ∧ List.Forall₂ (Event.Answers r i j.caller) events j.past

theorem Job.Recorded.mono {history later : List Event} {j : Job} {events : List Event}
    (recorded : j.Recorded r i history events) : j.Recorded r i (history ++ later) events :=
  ⟨recorded.1.trans (List.sublist_append_left ..), recorded.2⟩

/-- A step adds to what is recorded of the task that takes it, and of no other. -/
theorem Step.recorded {w w' : World} {e : Option Event} {history : List Event}
    (step : Step r i w e w') (recorded : ∀ j ∈ w.jobs, ∃ events, j.Recorded r i history events) :
    ∀ j ∈ w'.jobs, ∃ events, j.Recorded r i (history ++ e.toList) events := by
  intro j member
  cases step with
  | begin caller task =>
      rcases List.mem_append.1 member with earlier | now
      · obtain ⟨events, known⟩ := recorded j earlier
        exact ⟨events, known.mono⟩
      · obtain rfl := List.mem_singleton.1 now
        exact ⟨[], List.nil_sublist _, .nil⟩
  | @note t left right caller task past entry next =>
      simp only [List.mem_append, List.mem_cons] at member
      rcases member with low | rfl | high
      · obtain ⟨events, known⟩ := recorded j (by simp [low])
        exact ⟨events, known.mono⟩
      · obtain ⟨events, known⟩ := recorded ⟨caller, task, past, .note entry next⟩ (by simp)
        exact ⟨events, known.mono⟩
      · obtain ⟨events, known⟩ := recorded j (by simp [high])
        exact ⟨events, known.mono⟩
  | @ask t t' left right caller task past q next reply effect done =>
      simp only [List.mem_append, List.mem_cons] at member
      rcases member with low | rfl | high
      · obtain ⟨events, known⟩ := recorded j (by simp [low])
        exact ⟨events, known.mono⟩
      · obtain ⟨events, order, answers⟩ := recorded ⟨caller, task, past, .ask q next⟩ (by simp)
        refine ⟨events ++ [⟨caller, q, effect, t, t'⟩], order.append (List.Sublist.refl _), ?_⟩
        exact List.rel_append answers (.cons ⟨rfl, rfl, done⟩ .nil)
      · obtain ⟨events, known⟩ := recorded j (by simp [high])
        exact ⟨events, known.mono⟩

/-- **What tasks were told is in the history.** -/
theorem Execution.recorded {w : World} {history : List Event}
    (ran : Execution r i .initial history w) :
    ∀ j ∈ w.jobs, ∃ events, j.Recorded r i history events := by
  induction ran with
  | refl => simp [World.initial]
  | step _ next ih => exact next.recorded ih

end GeoRegistry.Registry
