/-
# Sql.Write -- inserting and updating rows

A write assigns a source to each of its columns: a field of the content, the
user who writes, the time of the database, a point, or the text to search in.
The slots are numbered in the order of the assignments, so the arguments are
listed in the same order (`arguments`).
-/
import GeoRegistry.Sql

namespace GeoRegistry.Sql

set_option autoImplicit false

/-- What a write puts into a column. -/
inductive Source where
  /-- A field of the content. -/
  | field (name : String)
  /-- The user who writes. -/
  | user
  /-- The time of the database. -/
  | now
  /-- The point of two fields. -/
  | point (x y : String) (srid : Int)
  /-- The words of three fields, the last two of which may be NULL. -/
  | words (name description comment : String)
  deriving DecidableEq, Repr

/-- What a slot is bound to. -/
inductive Binding where
  | field (name : String)
  | user
  deriving DecidableEq, Repr

namespace Source

/-- The bindings of a source's own slots. -/
def bindings : Source → List Binding
  | .field name => [.field name]
  | .user => [.user]
  | .now => []
  | .point x y _ => [.field x, .field y]
  | .words .. => []

end Source

/-- Columns and what is put into them. -/
abbrev Assignments := List (String × Source)

namespace Assignments

/-- What the slots are bound to, in order. -/
def bindings (a : Assignments) : List Binding :=
  a.flatMap (·.2.bindings)

/-- The number of the slot bound to a field, when slots are numbered from
`first`. -/
def slotOf (a : Assignments) (first : Int) (name : String) : Int :=
  first + (a.bindings.idxOf (.field name) : Nat)

/-- The expression of a source whose first own slot has the given number. -/
def expression (a : Assignments) (first slot : Int) : Source → Fragment
  | .field _ => [.slot slot]
  | .user => [.slot slot]
  | .now => [.text "CURRENT_TIMESTAMP"]
  | .point _ _ srid =>
      [.text "ST_SetSRID(ST_MakePoint(", .slot slot, .text ", ", .slot (slot + 1),
       .text ("), " ++ toString srid ++ ")")]
  | .words name description comment =>
      [.text "to_tsvector('french', unaccent(", .slot (a.slotOf first name),
       .text ") ||\n                              ' ' || coalesce(unaccent(",
       .slot (a.slotOf first description),
       .text "), ' ') ||\n                              ' ' || coalesce(unaccent(",
       .slot (a.slotOf first comment), .text "), ' '))"]

/-- The expressions of some of the assignments, from the slot given. -/
def expressionsFrom (a : Assignments) (first : Int) : (slot : Int) → Assignments → List Fragment
  | _, [] => []
  | slot, (_, source) :: rest =>
      a.expression first slot source ::
        expressionsFrom a first (slot + source.bindings.length) rest

/-- The expressions of all assignments, with slots numbered from `first`. -/
def expressions (a : Assignments) (first : Int) : List Fragment :=
  a.expressionsFrom first first a

/-- The arguments of the slots. -/
def arguments (a : Assignments) (user : Int) (content : Record) : List Cell :=
  a.bindings.map fun
    | .field name => (content.lookup name).getD .null
    | .user => .int user

end Assignments

/-- A new row, laid out in lines. -/
structure Insertion where
  table : String
  assignments : Assignments
  columnLines : List Nat
  valueLines : List Nat
  /-- A column whose value the database answers with. -/
  returning : Option String := none

def Insertion.sql (i : Insertion) : Fragment :=
  .text ("\nINSERT INTO " ++ i.table ++ "\n(") ::
    laidOut i.columnLines " " (i.assignments.map fun a => [.text a.1]) ++
    .text ")\nVALUES (" ::
    laidOut i.valueLines "        " (i.assignments.expressions 1) ++
    [.text (match i.returning with
      | none => ");\n"
      | some column => ")\nRETURNING " ++ column ++ ";\n")]

/-- New values for the row of an id that is not deleted; the id is bound to the
first slot. -/
structure Replacement where
  table : String
  assignments : Assignments

def Replacement.sql (r : Replacement) : Fragment :=
  .text ("\nUPDATE " ++ r.table ++ " SET\n       ") ::
    Fragment.joined ",\n       "
      (List.zipWith (fun a e => Piece.text (a.1 ++ " = ") :: e) r.assignments
        (r.assignments.expressions 2)) ++
    [.text "\nWHERE id = ", .slot 1, .text " AND _deleted = false;\n"]

end GeoRegistry.Sql
