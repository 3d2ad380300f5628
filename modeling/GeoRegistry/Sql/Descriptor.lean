/-
# Sql.Descriptor -- what a query needs to know about a table

A descriptor names the table, the columns its queries show, the condition every
shown row meets, and the columns that filters constrain.
-/
import GeoRegistry.Sql

namespace GeoRegistry.Sql

set_option autoImplicit false

/-- A column of a query: an expression, and the name it is shown under unless
that is the expression itself. -/
structure Column where
  expression : String
  shownAs : Option String := none
  deriving DecidableEq, Repr

namespace Column

/-- The name a column is shown under. -/
def name (c : Column) : String :=
  c.shownAs.getD c.expression

def text (c : Column) : String :=
  match c.shownAs with
  | none => c.expression
  | some name => c.expression ++ " AS " ++ name

/-- Columns below one another. -/
def listing (indent : String) (columns : List Column) : String :=
  (",\n" ++ indent).intercalate (columns.map text)

end Column

structure Descriptor where
  name : String
  table : String
  /-- The columns of a line of a list. -/
  listColumns : String
  /-- The columns of a full row. -/
  getColumns : String
  /-- The conditions that every row shown meets. -/
  base : List String := ["_deleted = false"]
  /-- Each filter and the column it constrains, in the order of the conditions. -/
  filterColumns : List (String × String) := []
  /-- The filtered columns that may be NULL. -/
  nullableColumns : List String := []
  orderBy : String := "_created_at DESC"
  idColumn : String := "id"
  ownerColumn : String := "_created_by"
  textSearchColumn : String := "text_search"
  textSearchConfig : String := "french"
  geometryColumn : Option String := none
  geojsonProperties : Option String := none
  deriving Repr

/-- The conditions that every row shown meets, as one. -/
def Descriptor.baseCondition (d : Descriptor) : String :=
  " AND ".intercalate d.base

end GeoRegistry.Sql
