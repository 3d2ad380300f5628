/-
# Store.Row -- what comes back for a query, as rows

A row is a record.  A sequence of pairs is as good as a record, and a record
where a sequence belongs is the sequence of its names; a text is the sequence of
its characters.  Anything else is of the wrong type.
-/
import GeoRegistry.Cell.Quoted
import GeoRegistry.Failure
import GeoRegistry.Json.Printer

namespace GeoRegistry.Store

set_option autoImplicit false

/-- The parts of a cell that is a sequence. -/
def parts? : Cell → Option (List Cell)
  | .list items => some items
  | .record fields => some (fields.map fun f => .text f.1)
  | .text s => some (s.toList.map fun c => .text (String.singleton c))
  | _ => none

/-- The parts of a cell that must be a sequence. -/
def parts (c : Cell) : Except Failure (List Cell) :=
  match parts? c with
  | some cells => .ok cells
  | none => .error .wrongType

/-- The name that a cell stands for; sequences cannot be names. -/
def nameOf : Cell → Except Failure String
  | .text s => .ok s
  | .null => .ok "null"
  | .bool b => .ok (if b then "true" else "false")
  | .float x => .ok (Json.floatText x)
  | .list _ | .record _ => .error .wrongType
  | c => .ok c.prose

/-- The pair at an index of a sequence. -/
def pairAt (index : Nat) (c : Cell) : Except Failure (String × Cell) := do
  match ← parts c with
  | [name, value] => return (← nameOf name, value)
  | cells =>
      .error (.badValue ("dictionary update sequence element #" ++ toString index ++
        " has length " ++ toString cells.length ++ "; 2 is required"))

/-- The pairs of a sequence from an index on. -/
def pairsFrom (index : Nat) : List Cell → Except Failure Record
  | [] => .ok []
  | c :: rest => do
      let pair ← pairAt index c
      let others ← pairsFrom (index + 1) rest
      return pair :: others

/-- The record that a row is. -/
def rowRecord : Cell → Except Failure Record
  | .record fields => .ok fields
  | c => do return Json.distinct (← pairsFrom 0 (← parts c))

end GeoRegistry.Store
