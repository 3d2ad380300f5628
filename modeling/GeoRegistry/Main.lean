/-
# Main -- the set-up command

Writes the statements that set the database up, in their transaction, to
standard output.  `--reset` drops the schema first.  The settings come from the
environment.
-/
import GeoRegistry.Service.Setup
import GeoRegistry.Json.Printer

namespace GeoRegistry.Setup

set_option autoImplicit false

/-- How the command is used. -/
def usage : String := "usage: setup [-h] [--reset]"

/-- The text of an event; the arguments of a statement follow it as a comment. -/
def Event.text : Event → String
  | .begin => "BEGIN;"
  | .execute s =>
      match s.args with
      | [] => s.sql
      | args => s.sql ++ "-- " ++ ", ".intercalate (args.map Cell.prose)
  | .commit => "COMMIT;"
  | .rollback => "ROLLBACK;"
  | .close => ""

/-- What is said about a failure. -/
def complaint : Failure → String
  | .exit _ => usage
  | .badValue message => message
  | .malformedSetting field => field ++ " is not written in JSON"
  | .invalid shape issues =>
      shape ++ ": " ++ (Json.array (issues.map (·.toJsonWith Cell.toJson))).render Json.spaced
  | _ => "set-up failed"

end GeoRegistry.Setup

open GeoRegistry in
/-- The variables of the environment that are settings. -/
def environment : IO (List (String × String)) := do
  let names := Settings.standard.fields.map fun f => f.1.toUpper
  let values ← names.mapM fun name => do return (name, ← IO.getEnv name)
  return values.filterMap fun v => v.2.map fun value => (v.1, value)

open GeoRegistry in
def main (arguments : List String) : IO UInt32 := do
  let run := Setup.run arguments (← environment) none []
  match run.outcome with
  | .ok () =>
      for event in run.events do
        IO.println event.text
      return 0
  | .error e =>
      IO.eprintln (Setup.complaint e)
      match e with
      | .exit status => return status.toUInt32
      | _ => return 1
