/-
# Sql.Condition -- the conditions that filters put on rows

A filter on a column compiles to `column = COALESCE(slot, column)` and binds its
value, or NULL when it is absent: the condition then compares the column with
itself.  A column that may be NULL is compared by `IS NOT DISTINCT FROM`, because
NULL is not equal to NULL.  Keywords make a condition only when they are present.
-/
import GeoRegistry.Sql.Descriptor
import GeoRegistry.Filter

namespace GeoRegistry.Sql

set_option autoImplicit false

inductive Condition where
  | filter (column : String) (nullable : Bool) (slot : Int)
  | keywords (column config : String) (slot : Int)
  deriving DecidableEq, Repr

namespace Condition

/-- A condition as it is appended to the ones before it. -/
def fragment : Condition → Fragment
  | .filter column nullable slot =>
      [.text (" AND " ++ column ++ (if nullable then " IS NOT DISTINCT FROM " else " = ") ++
        "COALESCE("), .slot slot, .text (", " ++ column ++ ")")]
  | .keywords column config slot =>
      [.text (" AND " ++ column ++ " @@ plainto_tsquery('" ++ config ++ "', unaccent("),
       .slot slot, .text "))"]

end Condition

/-- The filters of a query: those it knows, each present or absent. -/
abbrev Filters := List (String × Opt)

namespace Filters

/-- The filters of the given names; those not given are absent. -/
def declare (names : List String) (given : Record) : Filters :=
  names.map fun name => (name, .ofCell ((given.lookup name).getD .null))

/-- The keyword filter; absent where the query does not know it. -/
def keywords (f : Filters) : Opt :=
  (f.lookup "keywords").getD .absent

end Filters

/-- The conditions of the filters on columns, each with its argument, numbered
from `first`.  A filter the query does not know makes no condition. -/
def columnConditions (d : Descriptor) (f : Filters) :
    (first : Int) → List (String × String) → List (Condition × Cell)
  | _, [] => []
  | first, (name, column) :: rest =>
      match f.lookup name with
      | none => columnConditions d f first rest
      | some o =>
          (.filter column (d.nullableColumns.contains column) first, o.toParam) ::
            columnConditions d f (first + 1) rest

/-- The conditions of all filters, each with its argument, numbered from
`first`; the keywords come last. -/
def conditions (d : Descriptor) (f : Filters) (first : Int) : List (Condition × Cell) :=
  let columns := columnConditions d f first d.filterColumns
  if f.keywords.present then
    columns ++ [(.keywords d.textSearchColumn d.textSearchConfig (first + columns.length),
      f.keywords.value)]
  else columns

/-- The text of the conditions and their arguments. -/
def predicates (d : Descriptor) (f : Filters) (first : Int) : Query :=
  let cs := conditions d f first
  ⟨cs.flatMap (·.1.fragment), cs.map (·.2)⟩

end GeoRegistry.Sql
