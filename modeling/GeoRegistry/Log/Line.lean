/-
# Log.Line -- a log record as one line of JSON

A line is an object with the record's level, logger and message, then the named
context in order, then the chain of exceptions, if any.  Names that belong to
every record, and names that start with an underscore, are not context; some of
them take the place of what the record has of its own.  A name of the context
that is already in the object replaces its value.
-/
import GeoRegistry.Log
import GeoRegistry.Log.Template
import GeoRegistry.Json.Printer

namespace GeoRegistry.Log

set_option autoImplicit false

/-- A log record before it is written. -/
structure Line where
  /-- A level or its rank. -/
  rank : Cell
  logger : Cell
  template : Cell
  args : List Cell
  /-- Attributes set on the record, in order. -/
  extra : Record
  /-- The messages of the exceptions attached, first cause first. -/
  exceptions : Option (List String)

/-- Why a record cannot be written. -/
inductive Line.Fault where
  /-- Its message cannot be made. -/
  | message (fault : Template.Fault)
  /-- It has lost the way to make its message. -/
  | speechless
  /-- It holds an integer of too many digits. -/
  | longInteger
  /-- What is attached is no exception: a list or a text with fewer than three
  parts. -/
  | partsMissing (list : Bool)
  /-- A value without parts. -/
  | noParts
  /-- A record, whose parts have names. -/
  | partsNamed
  /-- Parts of other things. -/
  | strangeParts
  deriving Repr

namespace Line

/-- The names that every record has of its own. -/
def reserved : List String :=
  ["name", "msg", "args", "levelname", "levelno", "pathname", "filename", "module", "exc_info",
   "exc_text", "stack_info", "lineno", "funcName", "created", "msecs", "relativeCreated", "thread",
   "threadName", "processName", "process", "message", "asctime", "taskName"]

/-- The name is shown as context. -/
def isContext (name : String) : Bool :=
  !reserved.contains name && name.toList.head? != some '_'

/-- What stands between two exceptions, the first of which caused the second. -/
def causeSeparator : String :=
  "\n\nThe above exception was the direct cause of the following exception:\n\n"

/-- One exception in words. -/
def exceptionText (message : String) : String :=
  if message.isEmpty then "ValueError" else "ValueError: " ++ message

/-- What is said when no exception is attached after all. -/
def noException : String := "NoneType: None"

/-- A chain of exceptions in words. -/
def chainText : List String → String
  | [] => noException
  | messages => causeSeparator.intercalate (messages.map exceptionText)

/-- What stands for an exception in a value: its last two parts are looked at, and
they may only be missing. -/
def attachedText : Cell → Except Fault String
  | .list (_ :: value :: place :: _) =>
      match value, place with
      | .null, .null => .ok noException
      | _, _ => .error .strangeParts
  | .list _ => .error (.partsMissing true)
  | .text s => .error (if s.length < 3 then .partsMissing false else .strangeParts)
  | .record _ => .error .partsNamed
  | _ => .error .noParts

/-- An attribute of the record, which the extra attributes may have replaced. -/
def attributeOf (name : String) (own : Cell) (extra : Record) : Cell :=
  (extra.lookup name).getD own

/-- The values for the template.  Without any it is left as it is. -/
def values? (line : Line) : Option Template.Values :=
  match line.extra.lookup "args" with
  | some c => if c.isFalsy then none else some (.alone c)
  | none => if line.args.isEmpty then none else some (.row line.args)

/-- The attribute that makes the message of a record; no value can take its
place. -/
def maker : String := "getMessage"

/-- The message of the record. -/
def message (line : Line) : Except Fault String :=
  let template := attributeOf "msg" line.template line.extra
  if (line.extra.lookup maker).isSome then .error .speechless
  else if template.hasLongInteger then .error .longInteger
  else match line.values? with
    | some values => (Template.format template.prose values).mapError .message
    | none => .ok template.prose

/-- The exceptions attached, in words. -/
def exceptions? (line : Line) : Except Fault (Option String) :=
  match line.extra.lookup "exc_info" with
  | some c => if c.isFalsy then .ok none else (attachedText c).map some
  | none => .ok (line.exceptions.map chainText)

/-- The fields every line starts with. -/
def identity (line : Line) (message : String) : Record :=
  [("level", attributeOf "levelname" (Level.called line.rank) line.extra),
   ("logger", attributeOf "name" line.logger line.extra),
   ("message", .text message)]

/-- The context of a record. -/
def context (line : Line) : Record :=
  line.extra.filter fun f => isContext f.1

/-- The fields of a line whose message and exceptions are known. -/
def fields (line : Line) (message : String) (exceptions : Option String) : Record :=
  let shown := line.context.foldl (fun acc f => Json.put acc f.1 f.2) (line.identity message)
  match exceptions with
  | none => shown
  | some text => Json.put shown "exc_info" (.text text)

/-- The text of the fields of a line. -/
def written (fields : Record) : Except Fault String :=
  if (Cell.record fields).hasLongInteger then .error .longInteger
  else .ok (((Cell.record fields).toJsonWith Cell.logRendering).render Json.spaced)

/-- The line of a record. -/
def render (line : Line) : Except Fault String := do
  written (line.fields (← line.message) (← line.exceptions?))

end Line

end GeoRegistry.Log
