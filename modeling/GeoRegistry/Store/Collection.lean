/-
# Store.Collection -- what can be done with the rows of every table

A collection is a table with the shapes of its rows: full rows, and lines of a
list.  Rows are read as they come back from the database, and a row of the wrong
shape is a failure.  A write that changes no row is a storage failure, and so is
a written row that cannot be read back.
-/
import GeoRegistry.Store.Command
import GeoRegistry.Store.Row

namespace GeoRegistry.Store

set_option autoImplicit false

structure Collection (Item Line : Type) where
  table : Table
  /-- A full row. -/
  item : Shape Item
  /-- A line of a list. -/
  line : Shape Line

/-- All things. -/
def things : Collection Thing Thing.Summary := ⟨.things, Thing.shape, Thing.Summary.shape⟩

/-- All types. -/
def types : Collection ThingType ThingType.Summary :=
  ⟨.types, ThingType.shape, ThingType.Summary.shape⟩

/-! ## Rows -/

/-- Read a row. -/
def readRow {α : Type} (shape : Shape α) (row : Cell) : Except Failure α := do
  (shape.read (← rowRecord row)).toExcept.mapError (Failure.invalid shape.name)

/-- Read rows; the first one of the wrong shape is the failure. -/
def readRows {α : Type} (shape : Shape α) : List Cell → Except Failure (List α)
  | [] => .ok []
  | row :: rest => do
      let first ← readRow shape row
      let others ← readRows shape rest
      .ok (first :: others)

namespace Collection

variable {Item Line : Type}

/-- Where the work on collections is logged. -/
def logger : String := "geothing.features.crud.postgres_repository"

/-- An entry about a collection. -/
def entry (c : Collection Item Line) (level : Log.Level) (message : String)
    (extra : Record := []) : Log.Entry :=
  { level, logger, message := c.table.noun ++ " " ++ message, extra }

/-- The context of an entry about a row. -/
def about (id : Cell) : Record := [("id", .text id.prose)]

/-! ## Queries -/

/-- The lines that a query finds; `query` is what it is called in the log. -/
def lines (c : Collection Item Line) (s : Store) (query : String) (command : Command) :
    Dialogue Command (List Line) := do
  let found ← s.channel.send command
  if found.isFalsy then
    .log (c.entry .info (query ++ " returned no results"))
    .fail .noRows
  else .ofExcept ((parts found).bind (readRows c.line))

/-- A page of the lines that the filters select. -/
def list (c : Collection Item Line) (s : Store) (filters : Sql.Filters) (offset limit : Cell) :
    Dialogue Command (List Line) := do
  .log
    { level := .debug, logger, message := "entering " ++ c.table.noun ++ " list",
      extra := [("offset", offset), ("limit", limit)] }
  c.lines s "list" (.list c.table filters offset limit)

/-- A page of the lines that hold a value in a column. -/
def listByColumn (c : Collection Item Line) (s : Store) (column : String)
    (value offset limit : Cell) : Dialogue Command (List Line) :=
  c.lines s ("list by " ++ column) (.listByColumn c.table column value offset limit)

/-- How many rows the filters select. -/
def count (c : Collection Item Line) (s : Store) (filters : Sql.Filters) :
    Dialogue Command Int :=
  s.channel.count (.count c.table filters)

/-- A page of the rows that the filters select, as the text of a feature
collection.  Only things have a geometry. -/
def features (c : Collection Item Line) (s : Store) (filters : Sql.Filters)
    (offset limit : Cell) : Dialogue Command Cell := do
  match c.table with
  | .types => .fail (.badValue (Sql.noGeometry (c.table.descriptor s.schema)))
  | .things =>
      match ← s.channel.send (.features filters offset limit) with
      | .null =>
          .log (c.entry .info "geojson returned no results")
          .fail .noRows
      | found => pure found

/-- The row of an id. -/
def get (c : Collection Item Line) (s : Store) (id : Cell) : Dialogue Command Item := do
  match ← s.channel.send (.get c.table id) with
  | .null =>
      .log (c.entry .info "get returned no results" (about id))
      .fail .noRows
  | row => .ofExcept (readRow c.item row)

/-- A row has the id. -/
def exist (c : Collection Item Line) (s : Store) (id : Cell) : Dialogue Command Bool := do
  return 0 < (← s.channel.count (.exist c.table id))

/-- A row has the id and the user owns it. -/
def isOwner (c : Collection Item Line) (s : Store) (id : Cell) (user : Int) :
    Dialogue Command Bool := do
  return 0 < (← s.channel.count (.isOwner c.table id user))

/-! ## Writes -/

/-- Send a command that must change a row; `complaint` is what is said when it
does not. -/
def change (c : Collection Item Line) (s : Store) (complaint : String) (id : Cell)
    (command : Command) : Dialogue Command Unit := do
  if (← s.channel.execute command) < 1 then
    .log (c.entry .error complaint (about id))
    .refuse (.ofDetail .storage (c.table.noun ++ " " ++ complaint))

/-- Mark the row of an id deleted. -/
def delete (c : Collection Item Line) (s : Store) (id : Cell) (user : Int) :
    Dialogue Command Unit :=
  c.change s "was not marked for deletion" id (.softDelete c.table id user)

/-- Read back a row that was just written; `written` is what was done to it. -/
def readBack (c : Collection Item Line) (s : Store) (written : String) (id : Cell) :
    Dialogue Command Item :=
  (c.get s id).ifNoRows
    (.refuse ((DomainError.ofDetail .storage
      (c.table.noun ++ " was " ++ written ++ ", but can not be retrieved")).because .noRows))

end Collection

end GeoRegistry.Store
