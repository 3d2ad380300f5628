/-
# Registry.ThingTypes -- what callers may do with types

Everyone may list and count the types; all else is for administrators.  The
registry serves only while there is a type, since no thing could be created
without one.
-/
import GeoRegistry.Registry

namespace GeoRegistry.Registry

set_option autoImplicit false

/-- The caller must administer the registry. -/
def requireAdmin (caller : Caller) : Dialogue Store.Command Unit :=
  .require caller.requireAdmin

/-- Create a type. -/
def createType (r : Registry) (caller : Caller) (content : ThingType.Content) :
    Dialogue Store.Command ThingType := do
  requireAdmin caller
  r.requireName content.name
  let created ← r.store.createType caller.userId content
  .log (entry .info "type_things.usecases.create_type_thing_usecase" "type thing created"
    (.int created.id) caller)
  return created

/-- Replace the content of a type. -/
def updateType (r : Registry) (caller : Caller) (id : Int) (content : ThingType.Content) :
    Dialogue Store.Command ThingType := do
  requireAdmin caller
  r.requireRow Store.types (.int id)
  r.requireName content.name
  r.store.updateType (.int id) caller.userId content

/-- Delete a type.  Its row stays, marked as deleted. -/
def deleteType (r : Registry) (caller : Caller) (id : Int) : Dialogue Store.Command Unit := do
  requireAdmin caller
  r.requireRow Store.types (.int id)
  Store.types.delete r.store (.int id) caller.userId
  .log (entry .info "type_things.usecases.delete_type_thing_usecase" "type thing deleted"
    (.int id) caller)

/-- The type of an id. -/
def getType (r : Registry) (caller : Caller) (id : Int) : Dialogue Store.Command ThingType := do
  requireAdmin caller
  r.present Store.types (.int id)

/-- A page of the types that the filters select. -/
def listTypes (r : Registry) (filters : Sql.Filters) (offset limit : Cell) :
    Dialogue Store.Command (List ThingType.Summary) :=
  orEmpty (Store.types.list r.store filters offset limit)

/-- How many types the filters select. -/
def countTypes (r : Registry) (filters : Sql.Filters) : Dialogue Store.Command Int :=
  Store.types.count r.store filters

/-- Where the life of the service is logged. -/
def serviceLogger : String := "geothing.main"

/-- There must be a type; how many there are. -/
def requireTypes (s : Store) : Dialogue Store.Command Int := do
  let types ← s.countTypes
  if types < 1 then
    .log
      { level := .warning, logger := serviceLogger,
        message := s.schema ++ ".type_thing is empty, it should contain at least one row" }
    .refuse (.ofDetail .storage (s.schema ++ ".type_thing should not be empty"))
  else
    .log
      { level := .info, logger := serviceLogger,
        message := "database contains " ++ toString types ++ " type things" }
    return types

end GeoRegistry.Registry
