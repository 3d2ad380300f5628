/-
# Store.Statement -- what is sent to the database

A statement is text with its arguments beside it, and the shape of the answer it
is sent for: all rows, the first row, the first value of the first row, or the
status of a command.
-/
import GeoRegistry.Sql
import GeoRegistry.Dialogue

namespace GeoRegistry.Store

set_option autoImplicit false

/-- The shape of the answer to a statement. -/
inductive Method where
  | rows
  | row
  | value
  | status
  deriving DecidableEq, Repr

/-- The answer to a statement that finds nothing. -/
def Method.nothing : Method → Cell
  | .rows => .list []
  | .row => .null
  | .value => .null
  | .status => .text ""

structure Statement where
  method : Method
  sql : String
  args : List Cell
  deriving Repr

namespace Statement

/-- The statement of a query. -/
def ofQuery (method : Method) (q : Sql.Query) : Statement :=
  ⟨method, q.sql.render, q.args⟩

/-- The answer to a statement when nobody says otherwise. -/
def silence (s : Statement) : Reply :=
  .returned s.method.nothing

end Statement

/-- How long a statement may take: a number of seconds, whole or measured. -/
inductive Seconds where
  | whole (n : Int)
  | measured (x : Binary64)
  deriving DecidableEq, Repr

namespace Seconds

def toCell : Seconds → Cell
  | .whole n => .int n
  | .measured x => .float x

end Seconds

end GeoRegistry.Store
