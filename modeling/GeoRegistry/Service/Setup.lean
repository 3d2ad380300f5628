/-
# Service.Setup -- setting the database up

The tables are defined in one transaction: either all of it takes effect, or
nothing does.  With `--reset` what was there before is dropped first.
-/
import GeoRegistry.Sql.Schema
import GeoRegistry.Store.Pool

namespace GeoRegistry.Setup

set_option autoImplicit false

open Store (Statement Access)

/-! ## Arguments -/

/-- What an argument asks for. -/
inductive Argument where
  | reset
  | help
  /-- An option that takes no value was given one. -/
  | valued
  /-- It is not clear which option is meant. -/
  | ambiguous
  | unknown
  deriving DecidableEq, Repr

/-- The long options. -/
def options : List (String × Argument) := [("--reset", .reset), ("--help", .help)]

/-- Read what follows the letter of the short option, which may be repeated. -/
def lettersAfter : List Char → Argument
  | [] => .help
  | c :: rest => if c = 'h' then lettersAfter rest else .valued

/-- Read an argument.  A long option may be cut short as long as it is clear
which one is meant. -/
def Argument.ofText (s : String) : Argument :=
  let cs := s.toList
  let name := cs.takeWhile (· != '=')
  match cs with
  | '-' :: '-' :: _ =>
      match options.filter fun o => name.isPrefixOf o.1.toList with
      | [] => .unknown
      | [o] => if name.length = cs.length then o.2 else .valued
      | _ => .ambiguous
  | ['-', 'h', '='] => .valued
  | '-' :: 'h' :: '=' :: rest => lettersAfter rest
  | '-' :: 'h' :: rest => lettersAfter rest
  | _ => .unknown

/-- The exit status of help, which is what was asked for. -/
def helpStatus : Nat := 0

/-- The exit status of arguments that make no sense. -/
def usageStatus : Nat := 2

/-- Follow the arguments in turn: whether to reset, or the exit status.  Unknown
ones are complained about last. -/
def follow : (reset unknown : Bool) → List Argument → Except Nat Bool
  | reset, unknown, [] => if unknown then .error usageStatus else .ok reset
  | _, unknown, .reset :: rest => follow true unknown rest
  | _, _, .help :: _ => .error helpStatus
  | reset, _, .unknown :: rest => follow reset true rest
  | _, _, _ => .error usageStatus

/-- Read the arguments.  An ambiguous one is complained about before anything is
done; from `--` on there are no options any more, and nothing else is known. -/
def readArguments (arguments : List String) : Except Nat Bool :=
  let options := (arguments.takeWhile (· != "--")).map Argument.ofText
  if options.contains .ambiguous then .error usageStatus
  else follow false (options.length < arguments.length) options

/-! ## The run -/

/-- What is done with the connection. -/
inductive Event where
  | begin
  | execute (statement : Statement)
  | commit
  | rollback
  | close
  deriving Repr

/-- What a run did. -/
structure Run where
  /-- Where a connection was made, or should have been. -/
  access : Option Access := none
  events : List Event := []
  entries : List Log.Entry := []
  outcome : Except Failure Unit

/-- Where setting up is logged. -/
def logger : String := "scripts.setup_postgres_schema"

def entry (level : Log.Level) (message : String) : Log.Entry :=
  { level, logger, message }

/-- What is done within the transaction. -/
def work (s : Settings) (reset : Bool) : Dialogue Statement Unit := do
  if reset then
    .log (entry .warning ("dropping schema " ++ s.schema))
    Sql.Schema.perform [Sql.Schema.drop s.schema]
  Sql.Schema.perform (Sql.Schema.definition s.schema s.srid (some s.adminId))

/-- How a transaction ends. -/
def ending : Except Failure Unit → Event
  | .ok () => .commit
  | .error _ => .rollback

/-- Set up over a connection; the replies are those of the database. -/
def connected (s : Settings) (reset : Bool) (replies : List Reply) : Run :=
  let t := (work s reset).run Statement.silence replies
  { access := some (.ofSettings s)
    events := .begin :: t.asked.map .execute ++ [ending t.outcome, .close]
    entries := t.entries ++
      match t.outcome with
      | .ok () => [entry .info ("schema " ++ s.schema ++ " is ready")]
      | .error _ => []
    outcome := t.outcome }

/-- Set up as the settings say, unless the connection fails. -/
def configured (s : Settings) (reset : Bool) (connection : Option StatementFailure)
    (replies : List Reply) : Run :=
  let start := entry .info
    ("connecting to database " ++ s.databaseName ++ " on " ++ s.databaseHost)
  match connection with
  | some f =>
      { access := some (.ofSettings s), entries := [start], outcome := .error (.interrupted f) }
  | none =>
      let r := connected s reset replies
      { r with entries := start :: r.entries }

/-- Settings under which the log can be kept. -/
def settings (environment : List (String × String)) : Except Failure Settings := do
  let s ← Settings.ofEnvironment environment
  let _ ← (Log.configure s.logLevel false).mapError Failure.badValue
  return s

/-- Run with the given arguments and environment. -/
def run (arguments : List String) (environment : List (String × String))
    (connection : Option StatementFailure) (replies : List Reply) : Run :=
  match readArguments arguments with
  | .error status => { outcome := .error (.exit status) }
  | .ok reset =>
      match settings environment with
      | .error e => { outcome := .error e }
      | .ok s => configured s reset connection replies

end GeoRegistry.Setup
