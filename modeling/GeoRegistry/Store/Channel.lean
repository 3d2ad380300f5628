/-
# Store.Channel -- how statements are sent and their answers read

A channel turns questions into statements and bounds the time each may take.
`Channel.send` is the one place where it is decided what a failed statement means:
a missed deadline cancels the operation, a fault of the database or of the
connection is a storage failure, and anything else is passed on as it is.
-/
import GeoRegistry.Cell.Quoted
import GeoRegistry.Store.Statement
import GeoRegistry.Integral

namespace GeoRegistry.Store

set_option autoImplicit false

/-- How questions become statements, and how long each may take. -/
structure Channel (ε : Type) where
  statement : ε → Statement
  deadline : Option Seconds := none

/-- What becomes of a failed statement. -/
inductive Verdict where
  /-- The deadline was missed. -/
  | cancelled
  /-- The database or the connection is at fault. -/
  | storage
  /-- Neither is; the failure is passed on. -/
  | passedOn
  deriving DecidableEq, Repr

/-- Who is at fault when a statement fails. -/
def verdict : StatementFault → Verdict
  | .timeout => .cancelled
  | .postgres | .uniqueViolation | .foreignKeyViolation | .queryCanceled | .interface | .os
  | .connectionRefused => .storage
  | .cancelled | .value => .passedOn

/-- A failed statement as the failure of an operation. -/
def consequence (f : StatementFailure) : Failure :=
  match verdict f.fault with
  | .cancelled => .refused ((DomainError.plain .cancelled).because (.statement f))
  | .storage => .refused ((DomainError.plain .storage).because (.statement f))
  | .passedOn => .interrupted f

namespace Channel

variable {ε : Type}

/-- Where statements are logged. -/
def logger : String := "geothing.db.postgres.connection"

/-- What is logged about a failed statement. -/
def failureEntries (ch : Channel ε) (question : ε) (f : StatementFailure) : List Log.Entry :=
  match verdict f.fault with
  | .cancelled =>
      [{ level := .warning, logger,
         message := "statement timed out after " ++
           (Cell.ofOption Seconds.toCell ch.deadline).prose ++ "s" }]
  | .storage =>
      [{ level := .error, logger, message := "statement failed: " ++ f.message,
         extra := [("query", .text (ch.statement question).sql)] }]
  | .passedOn => []

/-- Log entries and end with a failure. -/
def failing {α : Type} (entries : List Log.Entry) (e : Failure) : Dialogue ε α :=
  entries.foldr .note (.fail e)

/-- Send a statement; its answer, or what its failure means. -/
def send (ch : Channel ε) (question : ε) : Dialogue ε Cell :=
  .ask question fun
    | .returned value => pure value
    | .failed f => failing (ch.failureEntries question f) (consequence f)

/-- Send a statement that counts. -/
def count (ch : Channel ε) (question : ε) : Dialogue ε Int := do
  .ofExcept (← ch.send question).count

end Channel

/-- The number of rows a command status reports: its last word, or zero when that
is no number. -/
def rowsAffected (status : String) : Int :=
  (Text.integer? (String.ofList (Text.afterLast ' ' status.toList))).getD 0

/-- The number of rows that a command reports in its answer. -/
def affected : Cell → Except Failure Int
  | .text status => .ok (rowsAffected status)
  | _ => .error .noAttribute

namespace Channel

variable {ε : Type}

/-- Send a command; how many rows it changed. -/
def execute (ch : Channel ε) (question : ε) : Dialogue ε Int := do
  .ofExcept (affected (← ch.send question))

end Channel

end GeoRegistry.Store
