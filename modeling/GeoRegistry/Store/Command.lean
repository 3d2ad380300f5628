/-
# Store.Command -- what the registry asks of the database

A command says what is wanted; a store, which knows the schema and the coordinate
system, turns it into a statement.  The text of the statement depends on the
command's kind and on the store, and on the filters only through which of them
are known and whether keywords are present.
-/
import GeoRegistry.Sql.Read
import GeoRegistry.Sql.ThingTable
import GeoRegistry.Sql.ThingTypeTable
import GeoRegistry.Store.Channel
import GeoRegistry.Thing
import GeoRegistry.ThingType

namespace GeoRegistry

set_option autoImplicit false

/-- Where the rows are: the schema, the coordinate system of positions, and how
long a statement may take. -/
structure Store where
  schema : String := "geothing"
  srid : Int := 2056
  deadline : Option Store.Seconds := none

namespace Store

/-- The tables of the registry. -/
inductive Table where
  | things
  | types
  deriving DecidableEq, Repr

namespace Table

/-- What a row of the table is called. -/
def noun : Table → String
  | .things => "thing"
  | .types => "type thing"

def descriptor (schema : String) : Table → Sql.Descriptor
  | .things => Sql.ThingTable.descriptor schema
  | .types => Sql.ThingTypeTable.descriptor schema

end Table

inductive Command where
  /-- A page of the rows that the filters select. -/
  | list (table : Table) (filters : Sql.Filters) (offset limit : Cell)
  /-- A page of the rows that hold a value in a column. -/
  | listByColumn (table : Table) (column : String) (value offset limit : Cell)
  /-- How many rows the filters select. -/
  | count (table : Table) (filters : Sql.Filters)
  /-- A page of the things that the filters select, as a feature collection. -/
  | features (filters : Sql.Filters) (offset limit : Cell)
  /-- The full row of an id. -/
  | get (table : Table) (id : Cell)
  /-- How many rows have an id. -/
  | exist (table : Table) (id : Cell)
  /-- How many rows have an id and an owner. -/
  | isOwner (table : Table) (id : Cell) (user : Int)
  /-- Mark the row of an id deleted by a user. -/
  | softDelete (table : Table) (id : Cell) (user : Int)
  /-- A new thing of a user. -/
  | insertThing (user : Int) (content : Thing.Content)
  /-- New content for the thing of an id, written by a user. -/
  | updateThing (id : Cell) (user : Int) (content : Thing.Content)
  /-- A new type, made by a user. -/
  | insertType (user : Int) (content : ThingType.Content)
  /-- New content for the type of an id, written by a user. -/
  | updateType (id : Cell) (user : Int) (content : ThingType.Content)
  /-- How many types have an id. -/
  | typeExists (id : Int)
  /-- How many types there are. -/
  | countTypes
  /-- Nothing but an answer. -/
  | probe
  deriving Repr

/-- The command writes to the database. -/
def Command.writes : Command → Bool
  | .softDelete .. | .insertThing .. | .updateThing .. | .insertType .. | .updateType .. => true
  | _ => false

/-- The statement of a command. -/
def statement (s : Store) : Command → Statement
  | .list t f offset limit => .ofQuery .rows (Sql.listQuery (t.descriptor s.schema) f offset limit)
  | .listByColumn t column value offset limit =>
      .ofQuery .rows (Sql.listByColumnQuery (t.descriptor s.schema) column value offset limit)
  | .count t f => .ofQuery .value (Sql.countQuery (t.descriptor s.schema) f)
  | .features f offset limit =>
      .ofQuery .value (Sql.featuresQuery (Sql.ThingTable.descriptor s.schema)
        Sql.ThingTable.geometryColumn (Sql.ThingTable.geojsonProperties s.schema) f offset limit)
  | .get t id => .ofQuery .row ⟨Sql.getQuery (t.descriptor s.schema), [id]⟩
  | .exist t id => .ofQuery .value ⟨Sql.existQuery (t.descriptor s.schema), [id]⟩
  | .isOwner t id user =>
      .ofQuery .value ⟨Sql.isOwnerQuery (t.descriptor s.schema), [id, .int user]⟩
  | .softDelete t id user =>
      .ofQuery .status ⟨Sql.softDeleteQuery (t.descriptor s.schema), [.int user, id]⟩
  | .insertThing user content =>
      let write := Sql.ThingTable.insertion s.schema s.srid
      .ofQuery .status ⟨write.sql, write.assignments.arguments user content.fields⟩
  | .updateThing id user content =>
      let write := Sql.ThingTable.replacement s.schema s.srid
      .ofQuery .status ⟨write.sql, id :: write.assignments.arguments user content.fields⟩
  | .insertType user content =>
      let write := Sql.ThingTypeTable.insertion s.schema
      .ofQuery .value ⟨write.sql, write.assignments.arguments user content.fields⟩
  | .updateType id user content =>
      let write := Sql.ThingTypeTable.replacement s.schema
      .ofQuery .status ⟨write.sql, id :: write.assignments.arguments user content.fields⟩
  | .typeExists id => .ofQuery .value ⟨Sql.ThingTypeTable.existsQuery s.schema, [.int id]⟩
  | .countTypes => .ofQuery .value ⟨Sql.ThingTypeTable.countAllQuery s.schema, []⟩
  | .probe => ⟨.value, "SELECT 1;", []⟩

/-- The channel commands are sent through. -/
def channel (s : Store) : Channel Command where
  statement := s.statement
  deadline := s.deadline

/-- What a command is answered when nobody says otherwise. -/
def silence (s : Store) (c : Command) : Reply :=
  (s.statement c).silence

end Store

end GeoRegistry
