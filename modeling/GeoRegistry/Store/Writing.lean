/-
# Store.Writing -- storing things and types

A thing comes with its id, and a row that holds the id already, deleted or not,
makes the insert fail: that is reported as a thing that exists.  A type gets its
id from the database.  Whatever is written is read back.
-/
import GeoRegistry.Store.Collection

namespace GeoRegistry

set_option autoImplicit false

namespace Store

/-! ## Things -/

/-- Where the writing of things is logged. -/
def thingLogger : String := "geothing.features.things.repositories.postgres_repository"

/-- The refusal of a thing whose id is taken. -/
def alreadyExists (id : Uuid) : DomainError :=
  .ofDetail .alreadyExists ("thing " ++ id.text ++ " already exists")

/-- A failed insert, when the database says that the id is taken. -/
def idTaken (id : Uuid) : Failure → Failure
  | .refused e =>
      match e.refusal, e.causes with
      | .storage, .statement ⟨.uniqueViolation, _⟩ :: _ =>
          .refused { alreadyExists id with causes := .storage :: e.causes }
      | _, _ => .refused e
  | e => e

/-- Store a new thing of a user. -/
def createThing (s : Store) (user : Int) (content : Thing.Content) : Dialogue Command Thing := do
  let id := Cell.uuid content.id
  .log
    { level := .debug, logger := thingLogger, message := "creating thing",
      extra := [("id", .text id.prose), ("user_id", .int user)] }
  (things.change s "create affected no row" id (.insertThing user content)).orElse
    fun e => .fail (idTaken content.id e)
  things.readBack s "created" id

/-- Replace the content of the thing of an id. -/
def updateThing (s : Store) (id : Cell) (user : Int) (content : Thing.Content) :
    Dialogue Command Thing := do
  .log
    { level := .debug, logger := thingLogger, message := "updating thing",
      extra := [("id", .text id.prose), ("user_id", .int user)] }
  things.change s "update affected no row" id (.updateThing id user content)
  things.readBack s "updated" id

/-! ## Types -/

/-- Where the writing of types is logged. -/
def typeLogger : String := "geothing.features.type_things.repositories.postgres_repository"

/-- Store a new type, made by a user. -/
def createType (s : Store) (user : Int) (content : ThingType.Content) :
    Dialogue Command ThingType := do
  match ← s.channel.send (.insertType user content) with
  | .null =>
      .log
        { level := .error, logger := typeLogger, message := "type thing insert returned no id",
          extra := [("user_id", .int user)] }
      .refuse (.ofDetail .storage "type thing was not created")
  | id => types.readBack s "created" id

/-- Replace the content of the type of an id. -/
def updateType (s : Store) (id : Cell) (user : Int) (content : ThingType.Content) :
    Dialogue Command ThingType := do
  types.change s "update affected no row" id (.updateType id user content)
  types.readBack s "updated" id

/-- A type has the id. -/
def typeExists (s : Store) (id : Int) : Dialogue Command Bool := do
  return 0 < (← s.channel.count (.typeExists id))

/-- How many types there are. -/
def countTypes (s : Store) : Dialogue Command Int :=
  s.channel.count .countTypes

end Store

end GeoRegistry
