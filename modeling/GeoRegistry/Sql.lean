/-
# Sql -- statement text with numbered slots

A fragment is text with slots in it; a slot stands for the argument of its
number.  Values never become text: they travel beside the fragment, so the text
of a statement is the same whatever is bound to it.
-/
import GeoRegistry.Cell

namespace GeoRegistry.Sql

set_option autoImplicit false

inductive Piece where
  | text (s : String)
  | slot (number : Int)
  deriving DecidableEq, Repr

abbrev Fragment := List Piece

namespace Piece

def render : Piece → String
  | .text s => s
  | .slot n => "$" ++ toString n

/-- The piece with its slot numbered higher. -/
def shift (by_ : Int) : Piece → Piece
  | .text s => .text s
  | .slot n => .slot (n + by_)

end Piece

namespace Fragment

/-- The text of a fragment. -/
def render (f : Fragment) : String :=
  String.join (f.map Piece.render)

/-- The slots of a fragment, from left to right. -/
def slots (f : Fragment) : List Int :=
  f.filterMap fun
    | .slot n => some n
    | .text _ => none

/-- The fragment with every slot numbered higher. -/
def shift (by_ : Int) (f : Fragment) : Fragment :=
  f.map (·.shift by_)

/-- Fragments with a text between them. -/
def joined (separator : String) : List Fragment → Fragment
  | [] => []
  | [f] => f
  | f :: rest => f ++ .text separator :: joined separator rest

end Fragment

/-- A fragment and the arguments its slots stand for. -/
structure Query where
  sql : Fragment
  args : List Cell
  deriving Repr

/-- Split a list into lines of the given lengths; what is left over forms a last
line of its own. -/
def inLines {α : Type} : List Nat → List α → List (List α)
  | [], [] => []
  | [], rest => [rest]
  | n :: sizes, items => items.take n :: inLines sizes (items.drop n)

/-- Fragments laid out in lines: commas between them, and a line break with an
indent after the comma at the end of a line. -/
def laidOut (sizes : List Nat) (indent : String) (items : List Fragment) : Fragment :=
  Fragment.joined (",\n" ++ indent) ((inLines sizes items).map (Fragment.joined ", "))

end GeoRegistry.Sql
