/-
# Service.Connection -- how documents travel over a connection

The database has two types of documents.  Every connection of the pool is told how the
values of both are written for the database and read from it: as JSON text.
-/
import GeoRegistry.Registry.Things

namespace GeoRegistry

set_option autoImplicit false

/-- How the values of a type of the database travel. -/
structure Codec where
  type : String
  schema : String
  encode : Cell → Except Failure String
  decode : Cell → Except Failure Json

namespace Codec

/-- The codec of a type of documents. -/
def document (type : String) : Codec where
  type
  schema := "pg_catalog"
  encode := Registry.writeDocument
  decode := Registry.readDocument

/-- The codecs of a connection. -/
def installed : List Codec :=
  ["json", "jsonb"].map document

end Codec

end GeoRegistry
