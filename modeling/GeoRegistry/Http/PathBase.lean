/-
# Http.PathBase -- the part of a path that many routes share

A base is a text in which names in braces stand for parts that vary, each with
the kind of text it may be: `{name}` for any text within a segment, `{name:kind}`
for one of a certain kind.  Braces around anything else stand for themselves.
-/
import GeoRegistry.Text.Digit

namespace GeoRegistry.Http

set_option autoImplicit false

/-- What a variable part of a path may be. -/
inductive PartKind where
  /-- Anything within a segment. -/
  | segment
  /-- Any segments on one line. -/
  | segments
  | digits
  /-- Digits, perhaps with a point and more digits. -/
  | decimal
  /-- An identifier of 32 hexadecimal digits. -/
  | identifier
  deriving DecidableEq, Repr

namespace PartKind

/-- The kinds by their names. -/
def named : List (String × PartKind) :=
  [("str", .segment), ("path", .segments), ("int", .digits), ("float", .decimal),
   ("uuid", .identifier)]

/-- Nothing but digits, and some of them. -/
def allDigits (cs : List Char) : Bool :=
  !cs.isEmpty && cs.all Char.isDigit

/-- Groups of hexadecimal digits of the given sizes, perhaps with hyphens between
them. -/
def hexGroups : List Nat → List Char → Bool
  | [], cs => cs.isEmpty
  | size :: sizes, cs =>
      let group := cs.take size
      let rest := cs.drop size
      group.length = size && group.all (fun c => (Text.hexDigit? c).isSome) &&
        hexGroups sizes (if !sizes.isEmpty && rest.head? = some '-' then rest.drop 1 else rest)

/-- A text is of the kind. -/
def admits (kind : PartKind) (cs : List Char) : Bool :=
  match kind with
  | .segment => !cs.isEmpty && !cs.contains '/'
  | .segments => !cs.contains '\n'
  | .digits => allDigits cs
  | .decimal =>
      match cs.dropWhile Char.isDigit with
      | '.' :: fraction => allDigits (cs.takeWhile Char.isDigit) && allDigits fraction
      | rest => rest.isEmpty && !cs.isEmpty
  | .identifier => hexGroups [8, 4, 4, 4, 12] cs

end PartKind

/-- A piece of a base. -/
inductive PathPiece where
  | literal (c : Char)
  /-- A part that varies; the kind is missing when there is none of its name. -/
  | part (name : String) (kind : Option PartKind)
  deriving DecidableEq, Repr

abbrev PathBase := List PathPiece

namespace PathBase

/-! ## Reading -/

/-- A character that a name starts with. -/
def startsName (c : Char) : Bool :=
  c.isAlpha || c == '_'

/-- Read a name. -/
def name? (cs : List Char) : Option (String × List Char) :=
  let name := cs.takeWhile fun c => startsName c || c.isDigit
  if name.head?.any startsName then some (String.ofList name, cs.drop name.length) else none

/-- Read a part behind its opening brace. -/
def part? (cs : List Char) : Option (PathPiece × List Char) := do
  let (name, cs) ← name? cs
  match cs with
  | '\x7d' :: rest => some (.part name (some .segment), rest)
  | ':' :: cs =>
      let (kind, cs) ← name? cs
      match cs with
      | '\x7d' :: rest => some (.part name (PartKind.named.lookup kind), rest)
      | _ => none
  | _ => none

/-- Read a base.  The fuel is the length of the text. -/
def read : Nat → List Char → PathBase
  | 0, _ => []
  | _, [] => []
  | fuel + 1, c :: rest =>
      match if c = '\x7b' then part? rest else none with
      | some (piece, rest) => piece :: read fuel rest
      | none => .literal c :: read fuel rest

/-- The base that a text describes. -/
def ofText (s : String) : PathBase :=
  read s.length s.toList

/-! ## Matching -/

/-- Everything a text can be divided into. -/
def divisions : List Char → List (List Char × List Char)
  | [] => [([], [])]
  | c :: rest => ([], c :: rest) :: (divisions rest).map fun d => (c :: d.1, d.2)

/-- A text has the form of the base. -/
def admits : PathBase → List Char → Bool
  | [], cs => cs.isEmpty
  | .literal c :: base, cs => cs.head? = some c && admits base (cs.drop 1)
  | .part _ kind :: base, cs =>
      (divisions cs).any fun d => kind.any (·.admits d.1) && admits base d.2

/-! ## Faults -/

/-- The names of the parts that vary. -/
def names (base : PathBase) : List String :=
  base.filterMap fun
    | .part name _ => some name
    | .literal _ => none

/-- Every part is of a kind that there is. -/
def kindsKnown (base : PathBase) : Bool :=
  base.all fun
    | .part _ kind => kind.isSome
    | .literal _ => true

/-- Routes can be put on the base: the kinds of its parts are known, and no
name is used twice, or for something else by the routes. -/
def isSound (taken : List String) (base : PathBase) : Bool :=
  base.kindsKnown && decide base.names.Nodup && base.names.all fun name => !taken.contains name

end PathBase

end GeoRegistry.Http
