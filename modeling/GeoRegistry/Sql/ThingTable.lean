/-
# Sql.ThingTable -- the table of things

Deleted things and things without a position are never listed.
-/
import GeoRegistry.Sql.Descriptor
import GeoRegistry.Sql.Write

namespace GeoRegistry.Sql.ThingTable

set_option autoImplicit false

/-- The table in a schema. -/
def table (schema : String) : String :=
  schema ++ ".thing"

/-- The columns of a line of a list. -/
def listColumns : List Column :=
  [⟨"id", none⟩, ⟨"type_id", none⟩, ⟨"name", none⟩, ⟨"description", none⟩, ⟨"external_id", none⟩,
   ⟨"inactivated", none⟩, ⟨"validated", none⟩, ⟨"status", none⟩, ⟨"_created_by", some "created_by"⟩,
   ⟨"_created_at", some "created_at"⟩, ⟨"st_x(position)", some "pos_x"⟩,
   ⟨"st_y(position)", some "pos_y"⟩]

/-- The columns of a full row.  Positions are rounded to centimetres. -/
def getColumns : List Column :=
  [⟨"id", none⟩, ⟨"type_id", none⟩, ⟨"name", none⟩, ⟨"description", none⟩, ⟨"comment", none⟩,
   ⟨"external_id", none⟩, ⟨"external_ref", none⟩, ⟨"build_at", none⟩, ⟨"status", none⟩,
   ⟨"contained_by", none⟩, ⟨"contained_by_old", none⟩, ⟨"inactivated", none⟩,
   ⟨"inactivated_time", none⟩, ⟨"inactivated_by", none⟩, ⟨"inactivated_reason", none⟩,
   ⟨"validated", none⟩, ⟨"validated_time", none⟩, ⟨"validated_by", none⟩, ⟨"managed_by", none⟩,
   ⟨"_created_at", some "created_at"⟩, ⟨"_created_by", some "created_by"⟩,
   ⟨"_last_modified_at", some "last_modified_at"⟩, ⟨"_last_modified_by", some "last_modified_by"⟩,
   ⟨"_deleted", some "deleted"⟩, ⟨"_deleted_at", some "deleted_at"⟩,
   ⟨"_deleted_by", some "deleted_by"⟩, ⟨"more_data", none⟩,
   ⟨"round(st_x(ST_Centroid(position))::numeric, 2)", some "pos_x"⟩,
   ⟨"round(st_y(ST_Centroid(position))::numeric, 2)", some "pos_y"⟩]

/-- The properties of a feature: a line of a list, and the icon of the type. -/
def geojsonColumns (schema : String) : List Column :=
  listColumns.take 8 ++
    ⟨"(SELECT icon_path FROM " ++ schema ++ ".type_thing tt WHERE tt.id = t.type_id)",
      some "icon_path"⟩ :: listColumns.drop 8

/-- The column of a thing's position. -/
def geometryColumn : String := "position"

/-- The properties of a feature, laid out. -/
def geojsonProperties (schema : String) : String :=
  Column.listing "                   " (geojsonColumns schema)

def descriptor (schema : String) : Descriptor where
  name := "thing"
  table := table schema
  listColumns := Column.listing "       " listColumns
  getColumns := Column.listing "       " getColumns
  base := ["_deleted = false", "position IS NOT NULL"]
  filterColumns :=
    [("type_id", "type_id"), ("created_by", "_created_by"), ("inactivated", "inactivated"),
     ("validated", "validated")]
  geometryColumn := some geometryColumn
  geojsonProperties := some (geojsonProperties schema)

/-- The filters of a list. -/
def listFilters : List String := ["type_id", "created_by", "inactivated", "validated"]

/-- The filters of a search and of a count. -/
def searchFilters : List String := listFilters ++ ["keywords"]

/-- What a new thing's columns hold. -/
def insertAssignments (srid : Int) : Assignments :=
  [("id", .field "id"), ("type_id", .field "type_id"), ("name", .field "name"),
   ("description", .field "description"), ("comment", .field "comment"),
   ("external_id", .field "external_id"), ("external_ref", .field "external_ref"),
   ("build_at", .field "build_at"), ("status", .field "status"),
   ("contained_by", .field "contained_by"), ("contained_by_old", .field "contained_by_old"),
   ("validated", .field "validated"), ("validated_time", .field "validated_time"),
   ("validated_by", .field "validated_by"), ("managed_by", .field "managed_by"),
   ("_created_at", .now), ("_created_by", .user), ("more_data", .field "more_data"),
   ("text_search", .words "name" "description" "comment"),
   ("position", .point "pos_x" "pos_y" srid)]

def insertion (schema : String) (srid : Int) : Insertion where
  table := table schema
  assignments := insertAssignments srid
  columnLines := [7, 7, 6]
  valueLines := [7, 7, 4, 1, 1]

/-- What an update puts into a thing's columns. -/
def updateAssignments (srid : Int) : Assignments :=
  [("type_id", .field "type_id"), ("name", .field "name"), ("description", .field "description"),
   ("comment", .field "comment"), ("external_id", .field "external_id"),
   ("external_ref", .field "external_ref"), ("build_at", .field "build_at"),
   ("status", .field "status"), ("contained_by", .field "contained_by"),
   ("contained_by_old", .field "contained_by_old"), ("inactivated", .field "inactivated"),
   ("inactivated_time", .field "inactivated_time"), ("inactivated_by", .field "inactivated_by"),
   ("inactivated_reason", .field "inactivated_reason"), ("validated", .field "validated"),
   ("validated_time", .field "validated_time"), ("validated_by", .field "validated_by"),
   ("managed_by", .field "managed_by"), ("_last_modified_at", .now), ("_last_modified_by", .user),
   ("more_data", .field "more_data"), ("position", .point "pos_x" "pos_y" srid),
   ("text_search", .words "name" "description" "comment")]

def replacement (schema : String) (srid : Int) : Replacement where
  table := table schema
  assignments := updateAssignments srid

end GeoRegistry.Sql.ThingTable
