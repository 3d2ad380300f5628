/-
# Sql.Read -- the queries every table has

Lists and feature collections page through the rows that the filters select, and
a count counts them; all three have the same conditions.  Single rows are found
by id as long as they are not deleted.  Deleting marks the row and keeps it.
-/
import GeoRegistry.Sql.Condition

namespace GeoRegistry.Sql

set_option autoImplicit false

/-- The order of the rows, and the page: its size is bound first, its start
second. -/
def pageClause (d : Descriptor) : Fragment :=
  [.text (" ORDER BY " ++ d.orderBy ++ " LIMIT "), .slot 1, .text " OFFSET ", .slot 2]

/-- The condition on the rows shown, with slots from `first`. -/
def whereClause (d : Descriptor) (f : Filters) (first : Int) : Fragment :=
  .text d.baseCondition :: (predicates d f first).sql

/-- A page of the rows that the filters select. -/
def listQuery (d : Descriptor) (f : Filters) (offset limit : Cell) : Query where
  sql :=
    .text ("SELECT " ++ d.listColumns ++ " FROM " ++ d.table ++ " WHERE ") ::
      whereClause d f 3 ++ pageClause d ++ [.text ";"]
  args := limit :: offset :: (predicates d f 3).args

/-- A page of the rows that hold a value in a column. -/
def listByColumnQuery (d : Descriptor) (column : String) (value offset limit : Cell) : Query where
  sql :=
    .text ("SELECT " ++ d.listColumns ++ " FROM " ++ d.table ++ " WHERE " ++ d.baseCondition ++
      " AND " ++ column ++ " = ") :: .slot 3 :: pageClause d ++ [.text ";"]
  args := [limit, offset, value]

/-- The number of rows that the filters select. -/
def countQuery (d : Descriptor) (f : Filters) : Query where
  sql :=
    .text ("SELECT COUNT(*) FROM " ++ d.table ++ " WHERE ") :: whereClause d f 1 ++ [.text ";"]
  args := (predicates d f 1).args

/-- A page of the rows that the filters select, as one feature collection, with
the given geometry column and properties. -/
def featuresQuery (d : Descriptor) (geometry properties : String) (f : Filters)
    (offset limit : Cell) : Query where
  sql :=
    .text ("\nSELECT row_to_json(fc)::text\n" ++
      "FROM (SELECT 'FeatureCollection' AS type,\n" ++
      "             coalesce(array_to_json(array_agg(f)), '[]') AS features\n" ++
      "      FROM (SELECT 'Feature' AS type,\n" ++
      "                   ST_AsGeoJSON(t." ++ geometry ++ ", 6)::json AS geometry,\n" ++
      "                   row_to_json((SELECT l FROM (SELECT " ++ properties ++
      ") AS l)) AS properties\n" ++
      "            FROM " ++ d.table ++ " t\n" ++
      "            WHERE ") ::
    whereClause d f 3 ++ .text "\n            " :: pageClause d ++ [.text ") AS f) AS fc;\n"]
  args := limit :: offset :: (predicates d f 3).args

/-- What is said about a table without a geometry. -/
def noGeometry (d : Descriptor) : String :=
  d.name ++ " has no geometry to project"

/-- The feature collection of a table that has a geometry. -/
def geojsonQuery (d : Descriptor) (f : Filters) (offset limit : Cell) : Except String Query :=
  match d.geometryColumn, d.geojsonProperties with
  | some geometry, some properties => .ok (featuresQuery d geometry properties f offset limit)
  | _, _ => .error (noGeometry d)

/-- The full row of an id. -/
def getQuery (d : Descriptor) : Fragment :=
  [.text ("SELECT " ++ d.getColumns ++ " FROM " ++ d.table ++ " WHERE " ++ d.idColumn ++ " = "),
   .slot 1, .text " AND _deleted = false;"]

/-- How many rows have an id: one or none. -/
def existQuery (d : Descriptor) : Fragment :=
  [.text ("SELECT COUNT(*) FROM " ++ d.table ++ " WHERE " ++ d.idColumn ++ " = "), .slot 1,
   .text " AND _deleted = false;"]

/-- How many rows have an id and an owner: one or none. -/
def isOwnerQuery (d : Descriptor) : Fragment :=
  [.text ("SELECT COUNT(*) FROM " ++ d.table ++ " WHERE " ++ d.idColumn ++ " = "), .slot 1,
   .text (" AND " ++ d.ownerColumn ++ " = "), .slot 2, .text " AND _deleted = false;"]

/-- Mark a row deleted by a user. -/
def softDeleteQuery (d : Descriptor) : Fragment :=
  [.text ("UPDATE " ++ d.table ++ " SET _deleted = true, _deleted_by = "), .slot 1,
   .text (", _deleted_at = CURRENT_TIMESTAMP WHERE " ++ d.idColumn ++ " = "), .slot 2,
   .text " AND _deleted = false;"]

end GeoRegistry.Sql
