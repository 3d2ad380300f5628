/-
# Sql.Schema -- the definition of the tables

A column has a name, a type and at most one constraint; a column without a
constraint may be NULL.  Everything is created only where it is missing, so the
definitions can be run again.
-/
import GeoRegistry.Store.Statement

namespace GeoRegistry.Sql.Schema

set_option autoImplicit false

open Store (Statement)

/-! ## Columns -/

inductive Constraint where
  | primaryKey
  /-- Never NULL, and what else is said of it. -/
  | notNull (more : String)
  deriving DecidableEq, Repr

structure ColumnDefinition where
  name : String
  type : String
  constraint : Option Constraint := none
  deriving DecidableEq, Repr

namespace ColumnDefinition

/-- The column may be NULL. -/
def isNullable (c : ColumnDefinition) : Bool :=
  c.constraint.isNone

/-- Fill a text up to a width with blanks. -/
def padded (width : Nat) (s : String) : String :=
  s ++ String.ofList (List.replicate (width - s.length) ' ')

def text (c : ColumnDefinition) : String :=
  "    " ++ padded 19 c.name ++
    match c.constraint with
    | none => c.type
    | some .primaryKey => c.type ++ " PRIMARY KEY"
    | some (.notNull more) => padded 12 c.type ++ "NOT NULL" ++ more

end ColumnDefinition

/-- A table with its columns. -/
structure TableDefinition where
  name : String
  columns : List ColumnDefinition

def TableDefinition.text (t : TableDefinition) : String :=
  "\nCREATE TABLE IF NOT EXISTS " ++ t.name ++ "\n(\n" ++
    ",\n".intercalate (t.columns.map ColumnDefinition.text) ++ "\n);\n"

/-! ## Tables -/

/-- A column that may be NULL. -/
def free (name type : String) : ColumnDefinition :=
  { name, type }

/-- A column that is never NULL. -/
def required (name type : String) (more : String := "") : ColumnDefinition :=
  ⟨name, type, some (.notNull more)⟩

/-- A column that is false unless something else is said. -/
def flag (name : String) : ColumnDefinition :=
  required name "boolean" " DEFAULT false"

/-- The columns of the registry's own notes on a row. -/
def auditColumns : List ColumnDefinition :=
  [required "_created_at" "timestamptz" " DEFAULT CURRENT_TIMESTAMP",
   required "_created_by" "integer", free "_last_modified_at" "timestamptz",
   free "_last_modified_by" "integer", flag "_deleted", free "_deleted_at" "timestamptz",
   free "_deleted_by" "integer"]

/-- The columns that say whether and why a row is out of use. -/
def inactivationColumns : List ColumnDefinition :=
  [flag "inactivated", free "inactivated_time" "timestamptz", free "inactivated_by" "integer",
   free "inactivated_reason" "text"]

def typeTable (schema : String) : TableDefinition where
  name := schema ++ ".type_thing"
  columns :=
    [⟨"id", "serial", some .primaryKey⟩, required "name" "text", free "description" "text",
     free "comment" "text", free "external_id" "integer", free "table_name" "text",
     free "geometry_type" "text"] ++ inactivationColumns ++
    [free "managed_by" "integer", required "icon_path" "text" " DEFAULT ''",
     free "more_data_schema" "jsonb", free "text_search" "tsvector"] ++ auditColumns

def thingTable (schema : String) (srid : Int) : TableDefinition where
  name := schema ++ ".thing"
  columns :=
    [⟨"id", "uuid", some .primaryKey⟩,
     required "type_id" "integer" (" REFERENCES " ++ schema ++ ".type_thing (id)"),
     required "name" "text", free "description" "text", free "comment" "text",
     free "external_id" "integer", free "external_ref" "text", free "build_at" "timestamptz",
     free "status" "text", free "contained_by" "uuid", free "contained_by_old" "integer"] ++
    inactivationColumns ++
    [flag "validated", free "validated_time" "timestamptz", free "validated_by" "integer",
     free "managed_by" "integer", free "more_data" "jsonb", free "text_search" "tsvector",
     free "position" ("geometry(Point, " ++ toString srid ++ ")")] ++ auditColumns

/-! ## Statements -/

/-- An index: its name, and the table and columns it is on. -/
def index (schema name table on : String) : String :=
  "CREATE INDEX IF NOT EXISTS " ++ name ++ " ON " ++ schema ++ "." ++ table ++ " " ++ on ++ ";"

def indexes (schema : String) : List String :=
  [index schema "thing_text_search_idx" "thing" "USING gin (text_search)",
   index schema "thing_position_idx" "thing" "USING gist (position)",
   index schema "thing_created_at_idx" "thing" "(_created_at DESC)",
   index schema "thing_external_id_idx" "thing" "(external_id)",
   index schema "type_thing_text_search_idx" "type_thing" "USING gin (text_search)"]

/-- A first type, unless there is one. -/
def firstType (schema : String) : String :=
  "\nINSERT INTO " ++ schema ++
    ".type_thing (name, description, geometry_type, _created_by, text_search)\n" ++
    "SELECT 'Generic thing', 'default type created at setup', 'Point', $1,\n" ++
    "       to_tsvector('french', unaccent('Generic thing'))\n" ++
    "WHERE NOT EXISTS (SELECT 1 FROM " ++ schema ++ ".type_thing);\n"

/-- A command with its arguments. -/
def command (sql : String) (args : List Cell := []) : Statement :=
  ⟨.status, sql, args⟩

/-- What defines the tables; with an owner, also what adds a first type. -/
def definition (schema : String) (srid : Int) (owner : Option Int) : List Statement :=
  ([ "CREATE EXTENSION IF NOT EXISTS postgis;", "CREATE EXTENSION IF NOT EXISTS unaccent;",
     "CREATE SCHEMA IF NOT EXISTS " ++ schema ++ ";", (typeTable schema).text,
     (thingTable schema srid).text] ++ indexes schema).map (command ·) ++
    owner.toList.map fun user => command (firstType schema) [.int user]

/-- What drops the tables and all in them. -/
def drop (schema : String) : Statement :=
  command ("DROP SCHEMA IF EXISTS " ++ schema ++ " CASCADE;")

/-- What empties the tables. -/
def emptying (schema : String) : Statement :=
  command ("TRUNCATE TABLE " ++ schema ++ ".thing, " ++ schema ++
    ".type_thing RESTART IDENTITY CASCADE;")

/-- Run commands one after another; the first failure ends it and is passed on as it is. -/
def perform : List Statement → Dialogue Statement Unit
  | [] => pure ()
  | s :: rest =>
      .ask s fun
        | .returned _ => perform rest
        | .failed f => .fail (.interrupted f)

end GeoRegistry.Sql.Schema
