/-
# Cell.Quoted -- cells in prose

A text stands in prose as it is, any other cell in the words of its type.  Inside
a list or a record everything is quoted: texts between quotes, and identifiers,
timestamps and decimals by the call that makes them.  An integer of too many
digits has no text; a message that shows one asks first (`hasLongInteger`).
-/
import GeoRegistry.Cell
import GeoRegistry.Json.Printer
import GeoRegistry.Text.Quoted

namespace GeoRegistry

set_option autoImplicit false

/-! ## Timestamps -/

namespace Timestamp

/-- The parts of a span that are not zero, each behind its name. -/
def spanParts (micros : Int) : List String :=
  let seconds := micros.fdiv 1000000
  let parts := [("days", seconds.fdiv 86400), ("seconds", seconds.fmod 86400),
    ("microseconds", micros.fmod 1000000)]
  (parts.filter (·.2 != 0)).map fun p => p.1 ++ "=" ++ toString p.2

/-- An offset by the call that makes it. -/
def quotedOffset (micros : Int) : String :=
  if micros = 0 then "datetime.timezone.utc"
  else
    "datetime.timezone(datetime.timedelta(" ++ ", ".intercalate (spanParts micros) ++ "))"

/-- A timestamp by the call that makes it.  Seconds and microseconds are left out
when nothing else follows them. -/
def quoted (t : Timestamp) : String :=
  let fine :=
    if t.micro != 0 then [t.second, t.micro] else if t.second != 0 then [t.second] else []
  let fields := ([t.year, t.month, t.day, t.hour, t.minute] ++ fine).map fun n => toString n
  let offset := (t.offset.map fun micros => "tzinfo=" ++ quotedOffset micros).toList
  "datetime.datetime(" ++ ", ".intercalate (fields ++ offset) ++ ")"

end Timestamp

/-! ## Cells -/

namespace Cell

mutual

/-- The text of a cell inside another one. -/
def quoted : Cell → String
  | .null => "None"
  | .bool b => if b then "True" else "False"
  | .int n => toString n
  | .float x => x.plainText
  | .text s => Text.quote s
  | .list items => "[" ++ ", ".intercalate (quotedItems items) ++ "]"
  | .record fields => "\x7b" ++ ", ".intercalate (quotedFields fields) ++ "\x7d"
  | .uuid id => "UUID(" ++ Text.quote id.text ++ ")"
  | .time t => t.quoted
  | .decimal d => "Decimal(" ++ Text.quote d.text ++ ")"

def quotedItems : List Cell → List String
  | [] => []
  | v :: rest => quoted v :: quotedItems rest

def quotedFields : Record → List String
  | [] => []
  | (name, v) :: rest => (Text.quote name ++ ": " ++ quoted v) :: quotedFields rest

end

/-- The cell holds an integer of more digits than are shown. -/
def hasLongInteger (c : Cell) : Bool :=
  (c.toJsonWith logRendering).hasLongInteger

/-- The text of a cell in prose. -/
def prose : Cell → String
  | .text s => s
  | .uuid id => id.text
  | .time t => t.text Timestamp.proseLayout
  | .decimal d => d.text
  | c => c.quoted

end Cell

end GeoRegistry
