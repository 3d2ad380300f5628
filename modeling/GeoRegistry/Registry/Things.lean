/-
# Registry.Things -- what callers may do with things

Everyone may read things and create them; only its owner may change or delete
one.  Existence is checked before ownership, so a missing thing is reported as
missing whoever asks.
-/
import GeoRegistry.Registry
import GeoRegistry.Json.Parser
import GeoRegistry.Json.Printer

namespace GeoRegistry.Registry

set_option autoImplicit false

/-- The type of something to store must exist. -/
def requireType (r : Registry) (typeId : Int) : Dialogue Store.Command Unit := do
  unless ← r.store.typeExists typeId do
    .refuse (.ofDetail .typeNotFound ("type thing " ++ toString typeId ++ " does not exist"))

/-- The caller must own the thing; `activity` and `place` say what was tried. -/
def requireOwner (r : Registry) (activity place : String) (id : Uuid) (caller : Caller) :
    Dialogue Store.Command Unit := do
  unless ← Store.things.isOwner r.store (.uuid id) caller.userId do
    .log (entry .warning place (activity ++ " refused, caller is not the owner")
      (.text id.text) caller)
    .refuse (.plain .notOwner)

/-- Create a thing owned by the caller. -/
def createThing (r : Registry) (caller : Caller) (content : Thing.Content) :
    Dialogue Store.Command Thing := do
  r.requireName content.name
  r.requireType content.typeId
  if ← Store.things.exist r.store (.uuid content.id) then
    .refuse (Store.alreadyExists content.id)
  let created ← r.store.createThing caller.userId content
  .log (entry .info "things.usecases.create_thing_usecase" "thing created"
    (.text created.content.id.text) caller)
  return created

/-- Replace the content of the caller's thing; the id in the content is ignored. -/
def updateThing (r : Registry) (caller : Caller) (id : Uuid) (content : Thing.Content) :
    Dialogue Store.Command Thing := do
  r.requireRow Store.things (.uuid id)
  r.requireOwner "update" "things.usecases.update_thing_usecase" id caller
  r.requireName content.name
  r.requireType content.typeId
  r.store.updateThing (.uuid id) caller.userId content

/-- Delete the caller's thing.  Its row stays, marked as deleted. -/
def deleteThing (r : Registry) (caller : Caller) (id : Uuid) : Dialogue Store.Command Unit := do
  r.requireRow Store.things (.uuid id)
  r.requireOwner "delete" "things.usecases.delete_thing_usecase" id caller
  Store.things.delete r.store (.uuid id) caller.userId
  .log (entry .info "things.usecases.delete_thing_usecase" "thing deleted" (.text id.text) caller)

/-- The thing of an id. -/
def getThing (r : Registry) (id : Uuid) : Dialogue Store.Command Thing :=
  r.present Store.things (.uuid id)

/-- A page of the things that the filters select. -/
def listThings (r : Registry) (filters : Sql.Filters) (offset limit : Cell) :
    Dialogue Store.Command (List Thing.Summary) :=
  orEmpty (Store.things.list r.store filters offset limit)

/-- A page of the things that share an external id. -/
def listThingsByExternalId (r : Registry) (externalId offset limit : Cell) :
    Dialogue Store.Command (List Thing.Summary) :=
  orEmpty (Store.things.listByColumn r.store "external_id" externalId offset limit)

/-- How many things the filters select. -/
def countThings (r : Registry) (filters : Sql.Filters) : Dialogue Store.Command Int :=
  Store.things.count r.store filters

/-- The collection of no features. -/
def noFeatures : Json :=
  .object [("type", .text "FeatureCollection"), ("features", .array [])]

/-- Read the document the database wrote. -/
def readDocument : Cell → Except Failure Json
  | .text s => (Json.parse s).mapError fun
      | .malformed _ => .notJson
      | .oversized digits => Cell.literalFailure s (.tooLong digits)
      | .tooDeep container => .tooDeep container
  | _ => .error .wrongType

/-- The text of a document that a row holds. -/
def writeDocument (c : Cell) : Except Failure String :=
  if c.isDocument then .ok ((c.toJsonWith Cell.logRendering).render Json.spaced)
  else .error .wrongType

/-- A page of the things that the filters select, as a feature collection. -/
def thingFeatures (r : Registry) (filters : Sql.Filters) (offset limit : Cell) :
    Dialogue Store.Command Json :=
  (do .ofExcept (readDocument (← Store.things.features r.store filters offset limit))).ifNoRows
    (pure noFeatures)

end GeoRegistry.Registry
