/-
# Dialogue -- work that asks questions as it goes

A dialogue ends with an outcome, notes an entry in the log, or asks a question
and goes on with the reply.  Who answers is left open: `run` takes the replies
from a list, and any other respondent is as good.  What a dialogue did is its
transcript.
-/
import GeoRegistry.Failure
import GeoRegistry.Log

namespace GeoRegistry

set_option autoImplicit false

/-- What comes back for a question. -/
inductive Reply where
  | returned (value : Cell)
  | failed (failure : StatementFailure)
  deriving Repr

/-- Work that asks questions of type `ε` and produces an `α` unless it fails. -/
inductive Dialogue (ε α : Type) where
  | finish (outcome : Except Failure α)
  | note (entry : Log.Entry) (next : Dialogue ε α)
  | ask (question : ε) (next : Reply → Dialogue ε α)

namespace Dialogue

variable {ε α β : Type}

/-! ## Composition -/

/-- Go on with the result; a failure ends the dialogue. -/
def andThen : Dialogue ε α → (α → Dialogue ε β) → Dialogue ε β
  | .finish (.ok a), k => k a
  | .finish (.error e), _ => .finish (.error e)
  | .note entry next, k => .note entry (next.andThen k)
  | .ask question next, k => .ask question fun reply => (next reply).andThen k

instance : Monad (Dialogue ε) where
  pure a := .finish (.ok a)
  bind := andThen

/-- Go on from a failure; a result ends the dialogue. -/
def orElse : Dialogue ε α → (Failure → Dialogue ε α) → Dialogue ε α
  | .finish (.ok a), _ => .finish (.ok a)
  | .finish (.error e), k => k e
  | .note entry next, k => .note entry (next.orElse k)
  | .ask question next, k => .ask question fun reply => (next reply).orElse k

/-- End with a failure. -/
def fail (e : Failure) : Dialogue ε α :=
  .finish (.error e)

/-- End with a refusal. -/
def refuse (e : DomainError) : Dialogue ε α :=
  fail (.refused e)

/-- Log an entry. -/
def log (entry : Log.Entry) : Dialogue ε Unit :=
  .note entry (pure ())

/-- An outcome that is already there. -/
def ofExcept : Except Failure α → Dialogue ε α :=
  .finish

/-- Refuse unless a check passes. -/
def require (check : Except Refusal Unit) : Dialogue ε Unit :=
  .finish (check.mapError Failure.refusal)

/-- Take a query that matched nothing for the given dialogue. -/
def ifNoRows (d : Dialogue ε α) (instead : Dialogue ε α) : Dialogue ε α :=
  d.orElse fun
    | .noRows => instead
    | e => fail e

/-! ## Running -/

/-- What a dialogue did: what it asked and logged, the replies it had no use for,
and how it ended. -/
structure Transcript (ε α : Type) where
  asked : List ε := []
  entries : List Log.Entry := []
  unused : List Reply := []
  outcome : Except Failure α

/-- Run a dialogue against a list of replies.  Once they are used up a question
is answered as `silence` says. -/
def run (silence : ε → Reply) : Dialogue ε α → List Reply → Transcript ε α
  | .finish outcome, replies => { unused := replies, outcome }
  | .note entry next, replies =>
      let t := next.run silence replies
      { t with entries := entry :: t.entries }
  | .ask question next, [] =>
      let t := (next (silence question)).run silence []
      { t with asked := question :: t.asked }
  | .ask question next, reply :: replies =>
      let t := (next reply).run silence replies
      { t with asked := question :: t.asked }

end Dialogue

end GeoRegistry
