/-
# Sql.ThingTypeTable -- the table of types

Its id is a number that the database chooses.
-/
import GeoRegistry.Sql.Descriptor
import GeoRegistry.Sql.Write

namespace GeoRegistry.Sql.ThingTypeTable

set_option autoImplicit false

/-- The table in a schema. -/
def table (schema : String) : String :=
  schema ++ ".type_thing"

/-- The columns of a line of a list. -/
def listColumns : List Column :=
  [⟨"id", none⟩, ⟨"name", none⟩, ⟨"external_id", none⟩, ⟨"table_name", none⟩,
   ⟨"geometry_type", none⟩, ⟨"inactivated", none⟩, ⟨"managed_by", none⟩, ⟨"icon_path", none⟩,
   ⟨"_created_by", some "created_by"⟩, ⟨"_created_at", some "created_at"⟩]

/-- The columns of a full row. -/
def getColumns : List Column :=
  [⟨"id", none⟩, ⟨"name", none⟩, ⟨"description", none⟩, ⟨"comment", none⟩, ⟨"external_id", none⟩,
   ⟨"table_name", none⟩, ⟨"geometry_type", none⟩, ⟨"inactivated", none⟩,
   ⟨"inactivated_time", none⟩, ⟨"inactivated_by", none⟩, ⟨"inactivated_reason", none⟩,
   ⟨"managed_by", none⟩, ⟨"icon_path", none⟩, ⟨"more_data_schema", none⟩,
   ⟨"_created_at", some "created_at"⟩, ⟨"_created_by", some "created_by"⟩,
   ⟨"_last_modified_at", some "last_modified_at"⟩, ⟨"_last_modified_by", some "last_modified_by"⟩,
   ⟨"_deleted", some "deleted"⟩, ⟨"_deleted_at", some "deleted_at"⟩,
   ⟨"_deleted_by", some "deleted_by"⟩]

def descriptor (schema : String) : Descriptor where
  name := "type thing"
  table := table schema
  listColumns := Column.listing "       " listColumns
  getColumns := Column.listing "       " getColumns
  filterColumns :=
    [("created_by", "_created_by"), ("external_id", "external_id"), ("inactivated", "inactivated")]
  nullableColumns := ["external_id"]

/-- The filters of a list. -/
def listFilters : List String := ["created_by", "external_id", "inactivated", "keywords"]

/-- The filters of a count. -/
def countFilters : List String := ["created_by", "inactivated", "keywords"]

/-- What the columns of the content hold. -/
def contentAssignments : Assignments :=
  [("name", .field "name"), ("description", .field "description"), ("comment", .field "comment"),
   ("external_id", .field "external_id"), ("table_name", .field "table_name"),
   ("geometry_type", .field "geometry_type"), ("inactivated", .field "inactivated"),
   ("inactivated_time", .field "inactivated_time"), ("inactivated_by", .field "inactivated_by"),
   ("inactivated_reason", .field "inactivated_reason"), ("managed_by", .field "managed_by"),
   ("icon_path", .field "icon_path"), ("more_data_schema", .field "more_data_schema")]

def insertion (schema : String) : Insertion where
  table := table schema
  assignments :=
    contentAssignments ++
      [("_created_at", .now), ("_created_by", .user),
       ("text_search", .words "name" "description" "comment")]
  columnLines := [6, 4, 6]
  valueLines := [6, 4, 5, 1]
  returning := some "id"

def replacement (schema : String) : Replacement where
  table := table schema
  assignments :=
    contentAssignments ++
      [("_last_modified_at", .now), ("_last_modified_by", .user),
       ("text_search", .words "name" "description" "comment")]

/-- How many rows of a type's id are not deleted. -/
def existsQuery (schema : String) : Fragment :=
  [.text ("SELECT COUNT(*) FROM " ++ table schema ++ " WHERE id = "), .slot 1,
   .text " AND _deleted = false;"]

/-- How many types there are. -/
def countAllQuery (schema : String) : Fragment :=
  [.text ("SELECT COUNT(*) FROM " ++ table schema ++ " WHERE _deleted = false;")]

end GeoRegistry.Sql.ThingTypeTable
