/-
# Proofs.Store.Phrasing -- dialogues whose questions are put in other words

A command may know more than its statement says.  `Dialogue.phrased` keeps of a dialogue
what is sent: every question is put as a statement, and all else is as it was.  Two
dialogues with one phrasing send the same statements, log the same and end alike, whatever
they are told (`run_phrased`).

Phrasing follows the composition of dialogues, and a channel sends commands that are put in
the same words alike (`phrased_send`).
-/
import GeoRegistry.Proofs.Dialogue
import GeoRegistry.Store.Writing

namespace GeoRegistry

set_option autoImplicit false

namespace Dialogue

variable {ε δ α β : Type} (words : ε → δ)

/-- The dialogue with its questions put in other words. -/
def phrased : Dialogue ε α → Dialogue δ α
  | .finish outcome => .finish outcome
  | .note entry next => .note entry next.phrased
  | .ask question next => .ask (words question) fun reply => (next reply).phrased

/-- What was done, with the questions put in other words. -/
def Transcript.phrased (t : Transcript ε α) : Transcript δ α where
  asked := t.asked.map words
  entries := t.entries
  unused := t.unused
  outcome := t.outcome

theorem phrased_bind (d : Dialogue ε α) (k : α → Dialogue ε β) :
    (d >>= k).phrased words = d.phrased words >>= fun a => (k a).phrased words := by
  change (d.andThen k).phrased words = (d.phrased words).andThen fun a => (k a).phrased words
  induction d with
  | finish outcome => cases outcome <;> rfl
  | note entry next ih => simp only [andThen, phrased, ih]
  | ask question next ih => simp only [andThen, phrased, ih]

/-- What follows may be put in other words apart. -/
theorem phrased_bind_congr (d : Dialogue ε α) {k k' : α → Dialogue ε β}
    (same : ∀ a, (k a).phrased words = (k' a).phrased words) :
    (d >>= k).phrased words = (d >>= k').phrased words := by
  simp only [phrased_bind, same]

theorem phrased_orElse (d : Dialogue ε α) (k : Failure → Dialogue ε α) :
    (d.orElse k).phrased words = (d.phrased words).orElse fun e => (k e).phrased words := by
  induction d with
  | finish outcome => cases outcome <;> rfl
  | note entry next ih => simp only [orElse, phrased, ih]
  | ask question next ih => simp only [orElse, phrased, ih]

/-- **A run in other words** does what the dialogue did, if silence is the same answer. -/
theorem run_phrased {silence : ε → Reply} {silence' : δ → Reply}
    (quiet : ∀ question, silence' (words question) = silence question) (d : Dialogue ε α)
    (replies : List Reply) :
    (d.phrased words).run silence' replies = (d.run silence replies).phrased words := by
  induction d generalizing replies with
  | finish outcome => rfl
  | note entry next ih => simp only [phrased, run, ih, Transcript.phrased]
  | ask question next ih =>
      cases replies with
      | nil => simp only [phrased, run, quiet, ih, Transcript.phrased, List.map_cons]
      | cons reply replies => simp only [phrased, run, ih, Transcript.phrased, List.map_cons]

end Dialogue

namespace Store

open Dialogue

/-- **A run in statements** is the run in commands. -/
theorem run_statements {α : Type} (s : Store) (d : Dialogue Command α) (replies : List Reply) :
    (d.phrased s.statement).run Statement.silence replies =
      (d.run s.silence replies).phrased s.statement :=
  run_phrased s.statement (fun _ => rfl) d replies

/-- **Commands that are put in the same words are sent alike**, if their statements have one
text: that much of a statement that fails is logged. -/
theorem phrased_send {ε δ : Type} (ch : Channel ε) (words : ε → δ) {q q' : ε}
    (same : words q = words q') (text : (ch.statement q).sql = (ch.statement q').sql) :
    (ch.send q).phrased words = (ch.send q').phrased words := by
  have failures (f : StatementFailure) : ch.failureEntries q f = ch.failureEntries q' f := by
    simp only [Channel.failureEntries, text]
  simp only [Channel.send, phrased, same, failures]

section Changes

variable {Item Line δ : Type} (c : Collection Item Line) (s : Store) (complaint : String)
  (id : Cell) {q q' : Command}

/-- A command that must change a row is its words and nothing more. -/
theorem phrased_change_of (words : Command → δ) (same : words q = words q')
    (text : (s.statement q).sql = (s.statement q').sql) :
    (c.change s complaint id q).phrased words = (c.change s complaint id q').phrased words := by
  have sent := phrased_send s.channel words same text
  simp only [Collection.change, Channel.execute, phrased_bind, sent]

/-- A command that must change a row is its statement and nothing more. -/
theorem phrased_change (same : s.statement q = s.statement q') :
    (c.change s complaint id q).phrased s.statement =
      (c.change s complaint id q').phrased s.statement :=
  phrased_change_of c s complaint id s.statement same (congrArg Statement.sql same)

end Changes

end Store

end GeoRegistry
