/-
# Cell -- values as the database sends and receives them

A cell is a JSON value, or an identifier, a timestamp or a decimal; documents
may hold cells of every kind.
-/
import GeoRegistry.Json
import GeoRegistry.Binary64.Shortest
import GeoRegistry.Uuid
import GeoRegistry.Timestamp
import GeoRegistry.Decimal

namespace GeoRegistry

set_option autoImplicit false

inductive Cell where
  | null
  | bool (b : Bool)
  | int (n : Int)
  | float (x : Binary64)
  | text (s : String)
  | list (items : List Cell)
  | record (fields : List (String × Cell))
  | uuid (id : Uuid)
  | time (t : Timestamp)
  | decimal (d : Decimal)
  deriving Repr, Inhabited

/-- Named cells in order: a row, or a JSON document. -/
abbrev Record := List (String × Cell)

namespace Cell

mutual

def ofJson : Json → Cell
  | .null => .null
  | .bool b => .bool b
  | .int n => .int n
  | .float x => .float x
  | .text s => .text s
  | .array items => .list (ofItems items)
  | .object fields => .record (ofFields fields)

def ofItems : List Json → List Cell
  | [] => []
  | v :: rest => ofJson v :: ofItems rest

def ofFields : List (String × Json) → Record
  | [] => []
  | (name, v) :: rest => (name, ofJson v) :: ofFields rest

end

/-- How the cells that JSON has no word for are written in it. -/
structure Rendering where
  float : Binary64 → Json
  time : Timestamp → Json

mutual

def toJsonWith (r : Rendering) : Cell → Json
  | .null => .null
  | .bool b => .bool b
  | .int n => .int n
  | .float x => r.float x
  | .text s => .text s
  | .list items => .array (itemsToJson r items)
  | .record fields => .object (fieldsToJson r fields)
  | .uuid id => .text id.text
  | .time t => r.time t
  | .decimal d => .text d.text

def itemsToJson (r : Rendering) : List Cell → List Json
  | [] => []
  | v :: rest => toJsonWith r v :: itemsToJson r rest

def fieldsToJson (r : Rendering) : Record → List (String × Json)
  | [] => []
  | (name, v) :: rest => (name, toJsonWith r v) :: fieldsToJson r rest

end

mutual

/-- JSON has a word for the cell, or would have for a number without digits. -/
def isDocument : Cell → Bool
  | .list items => itemsAreDocuments items
  | .record fields => fieldsAreDocuments fields
  | .uuid _ | .time _ | .decimal _ => false
  | .null | .bool _ | .int _ | .float _ | .text _ => true

def itemsAreDocuments : List Cell → Bool
  | [] => true
  | v :: rest => isDocument v && itemsAreDocuments rest

def fieldsAreDocuments : Record → Bool
  | [] => true
  | (_, v) :: rest => isDocument v && fieldsAreDocuments rest

end

/-- In answers: timestamps in ISO form, null for a number without digits. -/
def answerRendering : Rendering where
  float x := if x.isFinite then .float x else .null
  time t := .text (t.text Timestamp.isoLayout)

/-- In log lines: timestamps in prose, every number as it is. -/
def logRendering : Rendering where
  float := .float
  time t := .text (t.text Timestamp.proseLayout)

/-- A cell as it stands in an answer. -/
def toJson (c : Cell) : Json :=
  toJsonWith answerRendering c

/-- An optional cell, null when absent. -/
def ofOption {α : Type} (inject : α → Cell) : Option α → Cell
  | some a => inject a
  | none => .null

/-- Empty, zero, false or null. -/
def isFalsy : Cell → Bool
  | .null => true
  | .bool b => !b
  | .int n => n = 0
  | .float x => x.isZero
  | .text s => s.isEmpty
  | .list items => items.isEmpty
  | .record fields => fields.isEmpty
  | .decimal d => d.isZero
  | .uuid _ => false
  | .time _ => false

end Cell

end GeoRegistry
